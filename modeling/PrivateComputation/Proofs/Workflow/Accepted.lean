import PrivateComputation.Proofs.SortedMap
import PrivateComputation.Proofs.Workflow.RoundTrip

/-!
Which workflow definitions are accepted, what is reported of the others, and that an accepted
definition is accepted again from the text that it is written as.
-/

namespace PrivateComputation

/-! ## Names of states -/

def NamesState (name : String) : Prop :=
  name ≠ "" ∧ ∀ c ∈ name.toList,
    'A' ≤ c ∧ c ≤ 'Z' ∨ 'a' ≤ c ∧ c ≤ 'z' ∨ '0' ≤ c ∧ c ≤ '9' ∨ c = '_' ∨ c = '.' ∨ c = '-'

theorem isAlphanum_iff (c : Char) : c.isAlphanum = true ↔
    'A' ≤ c ∧ c ≤ 'Z' ∨ 'a' ≤ c ∧ c ≤ 'z' ∨ '0' ≤ c ∧ c ≤ '9' := by
  have ranges : c.isAlphanum = (decide ('A' ≤ c ∧ c ≤ 'Z') ||
      (decide ('a' ≤ c) && decide (c ≤ 'z')) || (decide ('0' ≤ c) && decide (c ≤ '9'))) := rfl
  simp only [ranges, Bool.or_eq_true, Bool.and_eq_true, decide_eq_true_eq, or_assoc]

theorem isStateName_iff (name : String) : isStateName name = true ↔ NamesState name := by
  have characters : (!name.toList.isEmpty) = true ↔ name ≠ "" := by
    rw [Bool.not_eq_true', ← Bool.not_eq_true, List.isEmpty_iff, String.toList_eq_nil_iff]
  rw [isStateName, Bool.and_eq_true, characters, NamesState, List.all_eq_true]
  refine and_congr_right (fun _ => forall₂_congr fun c _ => ?_)
  simp only [Bool.or_eq_true, isAlphanum_iff, beq_iff_eq, or_assoc]

namespace Workflow

/-! ## The rules -/

def Knows (workflow : Workflow) (name : String) : Prop :=
  ∃ state, workflow.state? name = some state

/-- A state that can be run and left. What an end state names as the next one is not looked at. -/
structure Admits (workflow : Workflow) (name : String) (state : StateDefinition) : Prop where
  named : NamesState name
  launches : state.arguments ≠ []
  goesOn : state.isEnd = true ∨ ∃ next, state.next = some next
  follows : ∀ next, state.isEnd = false → state.next = some next → workflow.Knows next

structure WellFormed (workflow : Workflow) : Prop where
  inhabited : ∃ name, workflow.Knows name
  starts : workflow.Knows workflow.startsAt
  admits : ∀ name state, workflow.state? name = some state → workflow.Admits name state

/-- Every state that is named as the next one is known, also if an end state names it. -/
def KnowsEveryNext (workflow : Workflow) : Prop :=
  ∀ name state next, workflow.state? name = some state → state.next = some next →
    workflow.Knows next

/-- A rule that a state breaks, as it is reported. -/
inductive BreaksAt (workflow : Workflow) (name : String) (state : StateDefinition) :
    DefinitionFault → Prop
  | invalidName (odd : ¬NamesState name) : BreaksAt workflow name state (.invalidName name)
  | noArguments (idle : state.arguments = []) : BreaksAt workflow name state (.noArguments name)
  | dangling (goesOn : state.isEnd = false) (nowhere : state.next = none) :
      BreaksAt workflow name state (.dangling name)
  | unknownNext {next : String} (goesOn : state.isEnd = false) (names : state.next = some next)
      (unknown : ¬workflow.Knows next) : BreaksAt workflow name state (.unknownNext name next)

/-- A rule that a definition breaks, as it is reported; a rule for single states is broken by the
state that the report names. -/
inductive Breaks (workflow : Workflow) : DefinitionFault → Prop
  | noStates (empty : ∀ name, ¬workflow.Knows name) : Breaks workflow .noStates
  | unknownStart (unknown : ¬workflow.Knows workflow.startsAt) :
      Breaks workflow (.unknownStart workflow.startsAt)
  | state {name : String} {state : StateDefinition} {fault : DefinitionFault}
      (known : workflow.state? name = some state) (broken : workflow.BreaksAt name state fault) :
      Breaks workflow fault

variable {workflow : Workflow} {name : String} {state : StateDefinition} {fault : DefinitionFault}

theorem Admits.not_breaksAt (admits : workflow.Admits name state) :
    ¬workflow.BreaksAt name state fault := by
  intro broken
  cases broken with
  | invalidName odd => exact odd admits.named
  | noArguments idle => exact admits.launches idle
  | dangling goesOn nowhere =>
      rcases admits.goesOn with ends | ⟨next, names⟩
      · exact Bool.false_ne_true (goesOn.symm.trans ends)
      · exact Option.some_ne_none next (names.symm.trans nowhere)
  | unknownNext goesOn names unknown => exact unknown (admits.follows _ goesOn names)

theorem WellFormed.not_breaks (wellFormed : workflow.WellFormed) : ¬workflow.Breaks fault := by
  rintro (empty | unknown | ⟨known, broken⟩)
  · obtain ⟨name, known⟩ := wellFormed.inhabited
    exact empty name known
  · exact unknown wellFormed.starts
  · exact (wellFormed.admits _ _ known).not_breaksAt broken

/-! ## What the check finds -/

theorem contains_iff_knows : workflow.states.contains name = true ↔ workflow.Knows name :=
  Option.isSome_iff_exists

theorem isEmpty_states_iff : workflow.states.isEmpty = true ↔ ∀ name, ¬workflow.Knows name := by
  rw [SortedMap.isEmpty, List.isEmpty_iff]
  constructor
  · rintro empty name ⟨state, known⟩
    have listed := SortedMap.mem_of_get? known
    rw [empty] at listed
    cases listed
  · intro empty
    refine List.eq_nil_iff_forall_not_mem.mpr ?_
    rintro ⟨name, state⟩ listed
    exact empty name ⟨state, SortedMap.mem_entries_iff.mp listed⟩

def Judges (kept : Prop) (broken : DefinitionFault → Prop) : Option DefinitionFault → Prop
  | none => kept
  | some fault => broken fault

theorem judges_stateFault? (workflow : Workflow) (name : String) (state : StateDefinition) :
    Judges (workflow.Admits name state) (workflow.BreaksAt name state)
      (workflow.stateFault? name state) := by
  unfold stateFault?
  split
  next odd =>
    rw [Bool.not_eq_true', ← Bool.not_eq_true, isStateName_iff] at odd
    exact .invalidName odd
  next usual =>
    rw [Bool.not_eq_true', Bool.not_eq_false, isStateName_iff] at usual
    split
    next idle => exact .noArguments (List.isEmpty_iff.mp idle)
    next busy =>
      rw [List.isEmpty_iff] at busy
      split
      next ends =>
        exact ⟨usual, busy, .inl ends, fun _ goesOn => nomatch goesOn.symm.trans ends⟩
      next goesOn =>
        rw [Bool.not_eq_true] at goesOn
        split
        next nowhere => exact .dangling goesOn nowhere
        next next names =>
          split
          next known =>
            refine ⟨usual, busy, .inr ⟨next, names⟩, ?_⟩
            intro other _ same
            obtain rfl := Option.some.inj (names.symm.trans same)
            exact contains_iff_knows.mp known
          next unknown =>
            exact .unknownNext goesOn names (fun known => unknown (contains_iff_knows.mpr known))

theorem judges_fault? (workflow : Workflow) :
    Judges workflow.WellFormed workflow.Breaks workflow.fault? := by
  unfold fault?
  split
  next empty => exact .noStates (isEmpty_states_iff.mp empty)
  next =>
    split
    next unknown =>
      rw [Bool.not_eq_true', ← Bool.not_eq_true, contains_iff_knows] at unknown
      exact .unknownStart unknown
    next known =>
      rw [Bool.not_eq_true', Bool.not_eq_false, contains_iff_knows] at known
      cases found : workflow.states.entries.findSome?
          (fun entry => workflow.stateFault? entry.1 entry.2) with
      | none =>
          refine ⟨⟨_, known⟩, known, fun name state listed => ?_⟩
          have judged := judges_stateFault? workflow name state
          rwa [List.findSome?_eq_none_iff.mp found (name, state)
            (SortedMap.mem_of_get? listed)] at judged
      | some fault =>
          obtain ⟨⟨name, state⟩, listed, broken⟩ := List.exists_of_findSome?_eq_some found
          have judged := judges_stateFault? workflow name state
          rw [broken] at judged
          exact .state (SortedMap.mem_entries_iff.mp listed) judged

theorem fault?_eq_none_iff : workflow.fault? = none ↔ workflow.WellFormed := by
  have judged := judges_fault? workflow
  cases found : workflow.fault? with
  | none =>
      rw [found] at judged
      exact ⟨fun _ => judged, fun _ => rfl⟩
  | some fault =>
      rw [found] at judged
      exact ⟨nofun, fun wellFormed => absurd judged wellFormed.not_breaks⟩

theorem fault?_of_ofText {text : String} (accepted : ofText text = .ok workflow) :
    workflow.fault? = none := by
  unfold ofText at accepted
  split at accepted
  · cases accepted
  · split at accepted
    · cases accepted
    next sound =>
      cases accepted
      exact sound

theorem ofText_of_read {text : String} (read : decoder.ofText text = .ok workflow) :
    ofText text = match workflow.fault? with
      | some fault => .error fault
      | none => .ok workflow := by
  cases found : workflow.fault? <;> simp only [ofText, read, found]

end Workflow

/-- A definition that has been read is accepted if and only if it is well-formed. Otherwise a rule
is reported that it breaks, by the state that is named where the rule is about single states. -/
theorem definition_accepted_iff (text : String) (workflow : Workflow)
    (read : Workflow.decoder.ofText text = .ok workflow) :
    (Workflow.ofText text = .ok workflow ↔ workflow.WellFormed) ∧
      (¬workflow.WellFormed →
        ∃ fault, Workflow.ofText text = .error fault ∧ workflow.Breaks fault) := by
  rw [Workflow.ofText_of_read read, ← Workflow.fault?_eq_none_iff]
  cases found : workflow.fault? with
  | none => exact ⟨⟨fun _ => rfl, fun _ => rfl⟩, fun faulty => absurd rfl faulty⟩
  | some fault =>
      have judged := Workflow.judges_fault? workflow
      rw [found] at judged
      exact ⟨⟨nofun, nofun⟩, fun _ => ⟨fault, rfl, judged⟩⟩

def Workflow.faulty : Workflow :=
  ⟨"share", SortedMap.ofList
    [("share", ⟨"Task", "small", "lift", ["left"], none, some "nowhere", false, none, 0⟩),
      ("com pute", ⟨"Task", "small", "lift", [], none, none, false, none, 0⟩)], none⟩

theorem definition_accepted_iff_of_faulty :
    Workflow.decoder.ofText Workflow.faulty.toText = .ok .faulty ∧
      ∃ fault, Workflow.ofText Workflow.faulty.toText = .error fault ∧
        Workflow.faulty.Breaks fault := by
  have read : Workflow.decoder.ofText Workflow.faulty.toText = .ok .faulty :=
    Workflow.read_toText .faulty
  refine ⟨read, (definition_accepted_iff _ _ read).2 ?_⟩
  intro wellFormed
  exact (wellFormed.admits "com pute" _ rfl).launches rfl

def Workflow.straying : Workflow :=
  ⟨"prepare", SortedMap.empty.insert "prepare"
    ⟨"Task", "small", "lift", ["left"], none, some "nowhere", true, none, 0⟩, none⟩

/-- A definition is accepted although one of its states names a next one that is not known. -/
theorem accepted_beside_unknown_next :
    Workflow.decoder.ofText Workflow.straying.toText = .ok .straying ∧
      ¬(Workflow.ofText Workflow.straying.toText = .ok .straying ↔
        Workflow.straying.WellFormed ∧ Workflow.straying.KnowsEveryNext) := by
  refine ⟨Workflow.read_toText .straying, fun accepted => ?_⟩
  obtain ⟨-, known⟩ := accepted.mp (Workflow.ofText_toText (by decide +kernel))
  obtain ⟨next, found⟩ := known "prepare" _ "nowhere" rfl rfl
  cases found

/-! ## Written definitions -/

/-- An accepted definition is accepted from the text that it is written as, and is the same as
before; it is written as the same text again. Accepted definitions that are written as the same text
are the same. -/
theorem definition_reread (text : String) (workflow : Workflow)
    (accepted : Workflow.ofText text = .ok workflow) :
    Workflow.ofText workflow.toText = .ok workflow ∧
      (Workflow.ofText workflow.toText).map Workflow.toText = .ok workflow.toText ∧
      ∀ otherText other, Workflow.ofText otherText = .ok other →
        other.toText = workflow.toText → other = workflow := by
  have reread := Workflow.ofText_toText (Workflow.fault?_of_ofText accepted)
  refine ⟨reread, by rw [reread]; rfl, ?_⟩
  intro otherText other alsoAccepted same
  have alsoReread := Workflow.ofText_toText (Workflow.fault?_of_ofText alsoAccepted)
  rw [same, reread] at alsoReread
  exact (Except.ok.inj alsoReread).symm

def untidyDefinition : Json :=
  .object
    [("Note", .array [.null, .object []]), ("StartsAt", .string "prepare"), ("Version", .null),
      ("States", .object
        [("share", .array [.string "Task", .string "small", .string "lift", .strings []]),
          ("prepare", .array [.string "Task", .string "small", .string "lift",
            .strings ["say \"hi\"\n", ""], .null, .string "share"]),
          ("share", .object
            [("CmdArgsList", .strings ["left"]), ("Timeout", .null), ("Owner", .null),
              ("End", .bool true), ("Type", .string "Task"), ("PackageName", .string "lift"),
              ("ContainerDefinition", .string "small")])])]

def Workflow.tidied : Workflow :=
  ⟨"prepare", SortedMap.ofList
    [("prepare",
        ⟨"Task", "small", "lift", ["say \"hi\"\n", ""], none, some "share", false, none, 0⟩),
      ("share", ⟨"Task", "small", "lift", ["left"], none, none, true, none, 0⟩)], none⟩

theorem exact_untidyDefinition : untidyDefinition.Exact := by
  simp [untidyDefinition, Json.exact_object_iff, Json.exact_array_iff, Json.strings,
    Json.Exact.string, Json.Exact.null, Json.Exact.bool]

theorem definition_reread_of_untidy :
    Workflow.ofText untidyDefinition.pretty = .ok .tidied ∧
      Workflow.ofText Workflow.tidied.toText = .ok .tidied := by
  have read : Workflow.decoder.ofText untidyDefinition.pretty = .ok .tidied :=
    Decoder.ofText_pretty exact_untidyDefinition (by decide +kernel)
  have accepted : Workflow.ofText untidyDefinition.pretty = .ok .tidied := by
    rw [Workflow.ofText_of_read read]
    decide +kernel
  exact ⟨accepted, (definition_reread _ _ accepted).1⟩

end PrivateComputation
