import Mathlib.Data.Finset.Card
import PrivateComputation.Proofs.Workflow.Accepted

/-!
The walk through a workflow along the successors of its states. It ends if it never comes back to a
state, and then in no more steps than there are states; otherwise it goes on for ever.
-/

namespace PrivateComputation

namespace Workflow

inductive Chain (workflow : Workflow) : String → List (String × StateDefinition) → Prop
  | last {name : String} {definition : StateDefinition}
      (known : workflow.state? name = some definition) (ends : definition.successor = none) :
      Chain workflow name [(name, definition)]
  | step {name following : String} {definition : StateDefinition}
      {states : List (String × StateDefinition)}
      (known : workflow.state? name = some definition)
      (follows : definition.successor = some following)
      (rest : Chain workflow following states) :
      Chain workflow name ((name, definition) :: states)

def successor? (workflow : Workflow) (name : String) : Option String :=
  (workflow.state? name).bind StateDefinition.successor

/-- Where the walk from a state is after some steps; nowhere if it has ended before. -/
def walk (workflow : Workflow) (name : String) : Nat → Option String
  | 0 => some name
  | steps + 1 => (workflow.successor? name).bind (fun following => workflow.walk following steps)

/-- The walk from the first state is at some state twice. -/
def ComesBack (workflow : Workflow) : Prop :=
  ∃ earlier later name, earlier < later ∧ workflow.walk workflow.startsAt earlier = some name ∧
    workflow.walk workflow.startsAt later = some name

variable {workflow : Workflow} {name : String} {definition : StateDefinition}

theorem successor?_of_known (known : workflow.state? name = some definition) :
    workflow.successor? name = definition.successor := by
  rw [successor?, known, Option.bind_some]

/-! ## Walks -/

theorem walk_add (workflow : Workflow) (name : String) (first more : Nat) :
    workflow.walk name (first + more) =
      (workflow.walk name first).bind (fun middle => workflow.walk middle more) := by
  induction first generalizing name with
  | zero => rw [Nat.zero_add, walk, Option.bind_some]
  | succ first ih =>
      rw [Nat.add_right_comm, walk, walk]
      cases workflow.successor? name with
      | none => rfl
      | some following => exact ih following

theorem walk_none_of_le {steps later : Nat} (ended : workflow.walk name steps = none)
    (order : steps ≤ later) : workflow.walk name later = none := by
  obtain ⟨more, rfl⟩ := Nat.exists_eq_add_of_le order
  rw [walk_add, ended, Option.bind_none]

theorem walk_around {period : Nat} (back : workflow.walk name period = some name)
    (turns : Nat) : workflow.walk name (turns * period) = some name := by
  induction turns with
  | zero => rw [Nat.zero_mul, walk]
  | succ turns ih => rw [Nat.succ_mul, walk_add, ih, Option.bind_some, back]

theorem walk_of_return {other : String} {earlier later : Nat} (order : earlier < later)
    (first : workflow.walk name earlier = some other)
    (second : workflow.walk name later = some other) (steps : Nat) :
    workflow.walk name steps ≠ none := by
  intro ended
  obtain ⟨period, rfl⟩ := Nat.exists_eq_add_of_le (Nat.le_of_lt order)
  have back : workflow.walk other period = some other := by
    rwa [walk_add, first, Option.bind_some] at second
  have around : workflow.walk name (earlier + steps * period) = some other := by
    rw [walk_add, first, Option.bind_some, walk_around back]
  have beyond : steps ≤ earlier + steps * period :=
    Nat.le_add_left_of_le (Nat.le_mul_of_pos_right steps (by omega))
  rw [walk_none_of_le ended beyond] at around
  cases around

theorem exists_last_of_walk {steps : Nat} (ended : workflow.walk name steps = none) :
    ∃ before, before < steps ∧
      ∃ last, workflow.walk name before = some last ∧ workflow.successor? last = none := by
  induction steps generalizing name with
  | zero => cases ended
  | succ steps ih =>
      cases follows : workflow.successor? name with
      | none => exact ⟨0, Nat.succ_pos steps, name, rfl, follows⟩
      | some following =>
          rw [walk, follows, Option.bind_some] at ended
          obtain ⟨before, inside, last, there, stops⟩ := ih ended
          refine ⟨before + 1, Nat.succ_lt_succ inside, last, ?_, stops⟩
          rw [walk, follows, Option.bind_some, there]

/-! ## Chains -/

theorem Chain.walk {states : List (String × StateDefinition)}
    (chain : workflow.Chain name states) (steps : Nat) :
    workflow.walk name steps = (states.map Prod.fst)[steps]? := by
  induction chain generalizing steps with
  | last known ends =>
      cases steps with
      | zero => rfl
      | succ steps =>
          rw [Workflow.walk, successor?_of_known known, ends]
          simp
  | step known follows _ ih =>
      cases steps with
      | zero => rfl
      | succ steps =>
          rw [Workflow.walk, successor?_of_known known, follows, Option.bind_some, ih]
          simp

theorem Chain.nodup {states : List (String × StateDefinition)}
    (chain : workflow.Chain name states) : (states.map Prod.fst).Nodup := by
  refine List.nodup_iff_getElem?_ne_getElem?.mpr ?_
  intro earlier later order inside same
  obtain ⟨other, found⟩ : ∃ other, (states.map Prod.fst)[later]? = some other :=
    ⟨_, List.getElem?_eq_getElem inside⟩
  have first : workflow.walk name earlier = some other := by rw [chain.walk, same, found]
  have second : workflow.walk name later = some other := by rw [chain.walk, found]
  refine walk_of_return order first second (states.map Prod.fst).length ?_
  rw [chain.walk]
  exact List.getElem?_eq_none (Nat.le_refl _)

/-! ## Accepted workflows -/

section Accepted

variable (accepted : workflow.fault? = none)

include accepted

theorem state?_startsAt : ∃ first, workflow.state? workflow.startsAt = some first :=
  (fault?_eq_none_iff.mp accepted).starts

theorem goes_of_accepted (known : workflow.state? name = some definition) :
    definition.isEnd = true ∨ ∃ following next, definition.next = some following ∧
      workflow.state? following = some next := by
  have admits := (fault?_eq_none_iff.mp accepted).admits name definition known
  cases ends : definition.isEnd with
  | true => exact .inl rfl
  | false =>
      rcases admits.goesOn with isEnd | ⟨following, names⟩
      · rw [ends] at isEnd
        cases isEnd
      · obtain ⟨next, found⟩ := admits.follows following ends names
        exact .inr ⟨following, next, names, found⟩

theorem isEnd_of_accepted (known : workflow.state? name = some definition)
    (ends : definition.successor = none) : definition.isEnd = true := by
  rcases goes_of_accepted accepted known with isEnd | ⟨following, _, names, _⟩
  · exact isEnd
  · by_contra goesOn
    rw [StateDefinition.successor, if_neg goesOn, names] at ends
    cases ends

theorem state?_of_successor {following : String} (known : workflow.state? name = some definition)
    (follows : definition.successor = some following) :
    ∃ next, workflow.state? following = some next := by
  unfold StateDefinition.successor at follows
  split at follows
  · cases follows
  next goesOn =>
    rcases goes_of_accepted accepted known with isEnd | ⟨other, next, names, found⟩
    · exact absurd isEnd goesOn
    · cases follows.symm.trans names
      exact ⟨next, found⟩

theorem state?_of_walk {first : String} {steps : Nat}
    (known : ∃ definition, workflow.state? first = some definition)
    (there : workflow.walk first steps = some name) :
    ∃ definition, workflow.state? name = some definition := by
  induction steps generalizing first with
  | zero =>
      cases there
      exact known
  | succ steps ih =>
      obtain ⟨definition, known⟩ := known
      rw [walk, successor?_of_known known] at there
      obtain ⟨following, follows, there⟩ := Option.bind_eq_some_iff.mp there
      exact ih (state?_of_successor accepted known follows) there

theorem walk_of_once (once : ¬workflow.ComesBack) :
    workflow.walk workflow.startsAt workflow.states.size = none := by
  by_contra goesOn
  have there : ∀ steps ≤ workflow.states.size,
      ∃ name, workflow.walk workflow.startsAt steps = some name := by
    intro steps inside
    refine Option.ne_none_iff_exists'.mp ?_
    intro ended
    exact goesOn (walk_none_of_le ended inside)
  have known : ∀ steps ∈ Finset.range (workflow.states.size + 1),
      workflow.walk workflow.startsAt steps ∈ (workflow.states.keys.map some).toFinset := by
    intro steps inside
    obtain ⟨name, visits⟩ := there steps (Nat.lt_succ_iff.mp (Finset.mem_range.mp inside))
    obtain ⟨definition, found⟩ := state?_of_walk accepted (state?_startsAt accepted) visits
    have key : name ∈ workflow.states.keys :=
      List.mem_map_of_mem (f := Prod.fst) (SortedMap.mem_of_get? found)
    rw [visits]
    exact List.mem_toFinset.mpr (List.mem_map_of_mem key)
  have fewer : (workflow.states.keys.map some).toFinset.card <
      (Finset.range (workflow.states.size + 1)).card := by
    refine Nat.lt_of_le_of_lt (List.toFinset_card_le _) ?_
    simp [SortedMap.keys, SortedMap.size]
  obtain ⟨one, first, two, second, different, same⟩ :=
    Finset.exists_ne_map_eq_of_card_lt_of_maps_to fewer known
  wlog order : one < two generalizing one two
  · exact this two second one first different.symm same.symm (by omega)
  obtain ⟨name, visits⟩ := there one (Nat.lt_succ_iff.mp (Finset.mem_range.mp first))
  exact once ⟨one, two, name, order, visits, same.symm.trans visits⟩

/-- A walk that does not come back gets to an end state, in fewer steps than there are states. -/
theorem exists_end_of_once (once : ¬workflow.ComesBack) :
    ∃ steps, steps < workflow.states.size ∧ ∃ name definition,
      workflow.walk workflow.startsAt steps = some name ∧
        workflow.state? name = some definition ∧ definition.isEnd = true := by
  obtain ⟨steps, inside, name, visits, stops⟩ :=
    exists_last_of_walk (walk_of_once accepted once)
  obtain ⟨definition, known⟩ := state?_of_walk accepted (state?_startsAt accepted) visits
  rw [successor?_of_known known] at stops
  exact ⟨steps, inside, name, definition, visits, known, isEnd_of_accepted accepted known stops⟩

end Accepted

theorem ComesBack.walk (back : workflow.ComesBack) (steps : Nat) :
    workflow.walk workflow.startsAt steps ≠ none := by
  obtain ⟨earlier, later, name, order, first, second⟩ := back
  exact walk_of_return order first second steps

theorem ComesBack.isEnd (back : workflow.ComesBack) {steps : Nat}
    (visits : workflow.walk workflow.startsAt steps = some name)
    (known : workflow.state? name = some definition) : definition.isEnd = false := by
  by_contra stops
  have ends : workflow.successor? name = none := by
    rw [successor?_of_known known, StateDefinition.successor, if_pos (by simpa using stops)]
  refine back.walk (steps + 1) ?_
  rw [walk_add, visits, Option.bind_some, Workflow.walk, ends, Option.bind_none]

end Workflow

end PrivateComputation
