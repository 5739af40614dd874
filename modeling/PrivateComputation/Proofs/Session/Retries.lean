import PrivateComputation.Proofs.Session.Budget
import PrivateComputation.Proofs.Session.Ended
import PrivateComputation.Proofs.Session.Overflow

/-!
Retry numbers of a run that is taken up with any history. They are counted in 32 bits, and a retry
behind the last number stops the program; a run to the end does not come to that by itself.
-/

namespace PrivateComputation

variable {σ ρ : Type}

/-! ## Histories from some place on -/

def before? (history : List StateRun) : Nat → Option StateRun
  | 0 => none
  | index + 1 => history[index]?

def RelatedFrom (place : Nat) (related : Option StateRun → StateRun → Prop)
    (history : List StateRun) : Prop :=
  ∀ index later, place ≤ index → history[index]? = some later →
    related (before? history index) later

namespace RelatedFrom

variable {place : Nat} {related : Option StateRun → StateRun → Prop}

theorem length (history : List StateRun) : RelatedFrom history.length related history := by
  intro index later from_ found
  have inside := (List.getElem?_eq_some_iff.mp found).1
  omega

theorem append {history : List StateRun} (relates : RelatedFrom place related history)
    {new : StateRun} (behind : related history.getLast? new) :
    RelatedFrom place related (history ++ [new]) := by
  intro index later from_ found
  rcases getElem?_concat_cases found with old | ⟨rfl, rfl⟩
  · have inside := (List.getElem?_eq_some_iff.mp old).1
    have same : before? (history ++ [new]) index = before? history index := by
      cases index with
      | zero => rfl
      | succ index => exact List.getElem?_append_left (by omega)
    rw [same]
    exact relates index later from_ old
  · have same : before? (history ++ [later]) history.length = history.getLast? := by
      rcases List.eq_nil_or_concat history with rfl | ⟨front, final, rfl⟩
      · rfl
      · simp [before?]
    rw [same]
    exact behind

/-- A version of the same length has the same state runs, but for the containers and the status of the
last one. -/
theorem continues {before after : WorkflowRun} (relates : RelatedFrom place related before.history)
    (continues : before.Continues after) (same : after.history.length = before.history.length)
    (respects : ∀ {earlier later other}, later.SameRun other → related earlier later →
      related earlier other) : RelatedFrom place related after.history := by
  intro index later from_ found
  have inside := (List.getElem?_eq_some_iff.mp found).1
  rw [same] at inside
  obtain ⟨other, foundAfter, sameRun, _⟩ :=
    continues.kept index _ (List.getElem?_eq_getElem inside)
  cases found.symm.trans foundAfter
  have behind : before? after.history index = before? before.history index := by
    cases index with
    | zero => rfl
    | succ index =>
        obtain ⟨earlier, foundEarlier, _, kept⟩ :=
          continues.kept index _ (List.getElem?_eq_getElem (by omega))
        rw [before?, before?, foundEarlier, List.getElem?_eq_getElem (by omega),
          kept (by omega)]
  rw [behind]
  exact respects sameRun (relates index _ from_ (List.getElem?_eq_getElem inside))

end RelatedFrom

/-! ## What operations append -/

/-- How a state run comes to be appended to a run that has been taken up. -/
inductive StateRun.Appended (opened : WorkflowRun) : Option StateRun → StateRun → Prop
  | first {earlier : Option StateRun} {later : StateRun} (unstarted : opened.status = .created)
      (name : later.stateName = opened.workflow.startsAt) (zero : later.retryNumber.toNat = 0) :
      Appended opened earlier later
  | advanced {earlier later : StateRun} (completed : earlier.status = .completed)
      (follows : earlier.definition.successor = some later.stateName)
      (zero : later.retryNumber.toNat = 0) : Appended opened (some earlier) later
  | retried {earlier later : StateRun}
      (stuck : earlier.status = .failed ∨ earlier.status = .cancelled)
      (same : later.stateName = earlier.stateName)
      (counted : later.retryNumber.toNat = earlier.retryNumber.toNat + 1) :
      Appended opened (some earlier) later

namespace StateRun.Appended

variable {opened : WorkflowRun} {earlier? : Option StateRun} {earlier later other : StateRun}

theorem sameRun (same : later.SameRun other) (appended : Appended opened earlier? later) :
    Appended opened earlier? other := by
  have name := same.stateName
  have number := same.retryNumber
  cases appended with
  | first unstarted named zero =>
      exact .first unstarted (name.trans named) (number ▸ zero)
  | advanced completed follows zero => exact .advanced completed (name ▸ follows) (number ▸ zero)
  | retried stuck again counted => exact .retried stuck (name.trans again) (number ▸ counted)

theorem zero_of_none (appended : Appended opened none later) :
    later.retryNumber.toNat = 0 := by
  cases appended with
  | first _ _ zero => exact zero

theorem number_le (appended : Appended opened (some earlier) later) :
    later.retryNumber.toNat ≤ earlier.retryNumber.toNat + 1 := by
  cases appended with
  | first _ _ zero | advanced _ _ zero => omega
  | retried _ _ counted => exact counted.le

end StateRun.Appended

namespace WorkflowRun

theorem length_withCurrent {run : WorkflowRun} {current : StateRun}
    (last : run.current? = some current) (changed : StateRun) :
    (run.withCurrent changed).history.length = run.history.length := by
  obtain ⟨front, shape⟩ := List.getLast?_eq_some_iff.mp last
  simp [withCurrent, shape]

def lastNumber (run : WorkflowRun) : Nat :=
  (run.current?.map (fun current => current.retryNumber.toNat)).getD 0

section Numbers

variable {opened reached : WorkflowRun} {index : Nat} {stateRun : StateRun}

theorem Continues.number_last (continues : opened.Continues reached)
    (last : opened.history.length = index + 1) (found : reached.history[index]? = some stateRun) :
    stateRun.retryNumber.toNat = opened.lastNumber := by
  have inside : index < opened.history.length := by omega
  obtain ⟨later, foundLater, same, _⟩ := continues.kept index _ (List.getElem?_eq_getElem inside)
  cases found.symm.trans foundLater
  have current : opened.current? = some opened.history[index] := by
    rw [current?, List.getLast?_eq_getElem?, last, Nat.add_sub_cancel,
      List.getElem?_eq_getElem inside]
  rw [same.retryNumber, lastNumber, current]
  rfl

theorem Continues.number_le (continues : opened.Continues reached)
    (appended : RelatedFrom opened.history.length (StateRun.Appended opened) reached.history)
    (from_ : opened.history.length ≤ index + 1) (found : reached.history[index]? = some stateRun) :
    stateRun.retryNumber.toNat + opened.history.length ≤ opened.lastNumber + index + 1 := by
  -- The places are those from the last state run on that was there at the beginning.
  induction index generalizing stateRun with
  | zero =>
      by_cases last : opened.history.length = 1
      · rw [continues.number_last last found]
        omega
      · have zero := (appended 0 stateRun (by omega) found).zero_of_none
        omega
  | succ index ih =>
      by_cases last : opened.history.length = index + 2
      · rw [continues.number_last last found]
        omega
      · have inside := (List.getElem?_eq_some_iff.mp found).1
        have earlier : reached.history[index]? = some reached.history[index] :=
          List.getElem?_eq_getElem (by omega)
        have here := appended (index + 1) stateRun (by omega) found
        rw [before?, earlier] at here
        have more := here.number_le
        have bound := ih (by omega) earlier
        omega

theorem Continues.lastNumber_le (continues : opened.Continues reached)
    (appended : RelatedFrom opened.history.length (StateRun.Appended opened) reached.history) :
    reached.lastNumber ≤ opened.lastNumber + (reached.history.length - opened.history.length) := by
  cases last : reached.current? with
  | none => simp [lastNumber, last]
  | some current =>
      obtain ⟨front, shape⟩ := List.getLast?_eq_some_iff.mp last
      have length : reached.history.length = front.length + 1 := by simp [shape]
      have found : reached.history[front.length]? = some current := by simp [shape]
      have longer := continues.length_le
      have bound := continues.number_le appended (by omega) found
      rw [lastNumber, last, Option.map_some, Option.getD_some]
      omega

end Numbers

/-- A later version of a run that has been taken up. -/
structure GrownFrom (opened run : WorkflowRun) : Prop where
  same : run.workflow = opened.workflow
  unstarted : run.status = .created → opened.status = .created
  appended : RelatedFrom opened.history.length (StateRun.Appended opened) run.history

end WorkflowRun

namespace Session

variable [ContainerService σ] [RunRepository ρ]

theorem keeps_grownFrom (opened : WorkflowRun) :
    Keeps σ ρ (WorkflowRun.GrownFrom opened) := by
  rintro before after move ⟨same, unstarted, appended⟩
  have continues := move.continues
  have still := continues.identity.workflow.trans same
  cases move with
  | launchFirst created =>
      exact ⟨still, by simp [withStatus],
        appended.append (.first (unstarted created) (congrArg Workflow.startsAt same) rfl)⟩
  | launchNext _ last completed follows =>
      refine ⟨still, unstarted, appended.append ?_⟩
      change StateRun.Appended _ before.run.current? _
      rw [last]
      exact .advanced completed follows rfl
  | launchAgain _ last stuck below =>
      refine ⟨still, unstarted, appended.append ?_⟩
      change StateRun.Appended _ before.run.current? _
      rw [last]
      exact .retried stuck rfl (toNat_add_one below)
  | poll _ last _ | stop last _ =>
      exact ⟨still, unstarted, appended.continues continues
        (WorkflowRun.length_withCurrent last _) StateRun.Appended.sameRun⟩
  | complete | cancel | giveUp => exact ⟨still, by simp [withStatus], appended⟩
  | save | pause | interfere | recount => exact ⟨still, unstarted, appended⟩

/-! ## Runs to the end -/

/-- Behind a failed state run only a retry within its budget is appended, with the next number. -/
def WithinBudget (earlier? : Option StateRun) (later : StateRun) : Prop :=
  ∀ earlier, earlier? = some earlier → earlier.status = .failed →
    earlier.retryNumber < earlier.definition.retryCount ∧
      later.retryNumber = earlier.retryNumber + 1

/-- What is done to a session between two moments keeps to the budgets. -/
def Frugal (before after : Session σ ρ) : Prop :=
  ∀ place, RelatedFrom place WithinBudget before.run.history →
    RelatedFrom place WithinBudget after.run.history

namespace Frugal

variable {before middle after : Session σ ρ}

omit [ContainerService σ] [RunRepository ρ] in
theorem trans (first : before.Frugal middle) (second : middle.Frugal after) :
    before.Frugal after :=
  fun place relates => second place (first place relates)

omit [ContainerService σ] [RunRepository ρ] in
theorem of_history_eq (same : after.run.history = before.run.history) : before.Frugal after := by
  intro place relates
  rw [same]
  exact relates

omit [ContainerService σ] [RunRepository ρ] in
theorem of_continues (continues : before.run.Continues after.run)
    (same : after.run.history.length = before.run.history.length) : before.Frugal after := by
  intro place relates
  refine relates.continues continues same ?_
  intro earlier? later other sameRun within earlier found failed
  obtain ⟨below, counted⟩ := within earlier found failed
  exact ⟨below, sameRun.retryNumber.trans counted⟩

end Frugal

section Operations

variable (session : Session σ ρ)

theorem length_refresh :
    ((refresh : SessionM σ ρ WorkflowStatus).perform session).2.run.history.length =
      session.run.history.length := by
  rw [perform_refresh]
  split
  · rfl
  · cases found : session.running? with
    | none => rfl
    | some current =>
        exact WorkflowRun.length_withCurrent (running?_eq_some_iff.mp found).1 _

theorem length_cancelState :
    ((cancelState : SessionM σ ρ Unit).perform session).2.run.history.length =
      session.run.history.length := by
  rw [perform_cancelState]
  cases found : session.running? with
  | none => rfl
  | some current => exact WorkflowRun.length_withCurrent (running?_eq_some_iff.mp found).1 _

theorem length_cancelWorkflow :
    ((cancelWorkflow : SessionM σ ρ Unit).perform session).2.run.history.length =
      session.run.history.length := by
  rw [perform_cancelWorkflow]
  split
  · rfl
  · have stops := length_cancelState session
    generalize (cancelState : SessionM σ ρ Unit).perform session = outcome at stops ⊢
    rcases outcome with ⟨_ | _, after⟩ <;> exact stops

theorem refresh_frugal :
    session.Frugal ((refresh : SessionM σ ρ WorkflowStatus).perform session).2 :=
  .of_continues (refresh_moves (fun _ _ => True) session).continues (length_refresh session)

theorem cancelWorkflow_frugal :
    session.Frugal ((cancelWorkflow : SessionM σ ρ Unit).perform session).2 :=
  .of_continues (cancelWorkflow_moves (fun _ _ => True) session).continues
    (length_cancelWorkflow session)

variable {session}

theorem start_frugal (unstarted : session.run.status = .created → session.run.history = []) :
    session.Frugal ((start : SessionM σ ρ Unit).perform session).2 := by
  rw [perform_start]
  split
  next created =>
    cases session.run.workflow.state? session.run.workflow.startsAt with
    | none => exact .of_history_eq rfl
    | some definition =>
        intro place relates
        refine relates.append ?_
        rw [unstarted created]
        intro earlier found
        cases found
  next => exact .of_history_eq rfl

theorem next_frugal : session.Frugal ((next : SessionM σ ρ Unit).perform session).2 := by
  rw [perform_next]
  have refreshes := refresh_frugal session
  generalize (refresh : SessionM σ ρ WorkflowStatus).perform session = outcome at refreshes ⊢
  rcases outcome with ⟨_ | _, after⟩
  · exact refreshes
  · dsimp only at refreshes ⊢
    cases last : after.run.current? with
    | none => exact refreshes
    | some current =>
        dsimp only
        split
        next finished =>
          cases current.definition.successor with
          | none => exact refreshes.trans (.of_history_eq rfl)
          | some stateName =>
              dsimp only
              cases after.run.workflow.state? stateName with
              | none => exact refreshes
              | some definition =>
                  refine refreshes.trans (fun place relates => relates.append ?_)
                  intro earlier found failed
                  cases last.symm.trans found
                  rw [finished.2] at failed
                  cases failed
        next => exact refreshes

theorem retry_frugal
    (spare : ∀ current, session.run.current? = some current → current.retriesExhausted = false) :
    session.Frugal ((retry : SessionM σ ρ Unit).perform session).2 := by
  rw [perform_retry]
  split
  next => exact .of_history_eq rfl
  next =>
    cases last : session.run.current? with
    | none => exact .of_history_eq rfl
    | some current =>
        dsimp only
        split
        next =>
          split
          next =>
            cases session.run.workflow.state? current.stateName with
            | none => exact .of_history_eq rfl
            | some definition =>
                intro place relates
                refine relates.append ?_
                intro earlier found failed
                cases last.symm.trans found
                have left := spare current last
                rw [Bool.eq_false_iff, ne_eq, current.retriesExhausted_iff] at left
                exact ⟨UInt32.not_le.mp (fun spent => left ⟨failed, spent⟩), rfl⟩
          next => exact .of_history_eq rfl
        next => exact .of_history_eq rfl

theorem round_frugal (session : Session σ ρ) (cancel : Nat → σ → Bool × σ) :
    session.Frugal ((round cancel : SessionM σ ρ Unit).perform session).2 := by
  have asks : session.Frugal (session.asked cancel) := .of_history_eq rfl
  rw [perform_round]
  split
  · exact asks.trans (cancelWorkflow_frugal _)
  · rw [proceeded]
    have refreshes := asks.trans (refresh_frugal (session.asked cancel))
    generalize (refresh : SessionM σ ρ WorkflowStatus).perform (session.asked cancel) = outcome
      at refreshes ⊢
    rcases outcome with ⟨_ | status, after⟩
    · exact refreshes
    · dsimp only at refreshes ⊢
      split
      next => exact refreshes
      next =>
        cases last : after.run.current? with
        | none => exact refreshes
        | some current =>
            dsimp only
            cases current.status with
            | completed => exact refreshes.trans next_frugal
            | created | started => exact refreshes.trans (.of_history_eq rfl)
            | failed | cancelled =>
                dsimp only
                split
                next => exact refreshes.trans (.of_history_eq rfl)
                next spare =>
                  refine refreshes.trans (retry_frugal ?_)
                  intro other found
                  cases last.symm.trans found
                  exact Bool.eq_false_iff.mpr spare

theorem rounds_frugal (cancel : Nat → σ → Bool × σ) (count : Nat) :
    session.Frugal
      ((rounds cancel count : SessionM σ ρ (Option WorkflowStatus)).perform session).2 := by
  induction count generalizing session with
  | zero => exact .of_history_eq rfl
  | succ count ih =>
      rw [perform_rounds_succ]
      split
      · exact .of_history_eq rfl
      · have goes := round_frugal session cancel
        generalize (round cancel : SessionM σ ρ Unit).perform session = outcome at goes ⊢
        rcases outcome with ⟨_ | _, after⟩
        · exact goes
        · exact goes.trans ih

theorem runToEnd_frugal (unstarted : session.run.status = .created → session.run.history = [])
    (cancel : Nat → σ → Bool × σ) (maxRounds : Nat) :
    session.Frugal (session.operate (.runToEnd cancel maxRounds)).2 := by
  rw [operate_runToEnd, perform_runToEnd]
  have recounts : session.Frugal { session with cancelAnswers := [] } := .of_history_eq rfl
  split
  · have starts := recounts.trans (start_frugal unstarted)
    generalize (start : SessionM σ ρ Unit).perform { session with cancelAnswers := [] } = outcome
      at starts ⊢
    rcases outcome with ⟨_ | _, after⟩
    · exact starts
    · exact starts.trans (rounds_frugal cancel maxRounds)
  · exact recounts.trans (rounds_frugal cancel maxRounds)

end Operations

theorem operations_moves (session : Session σ ρ) (operations : List (Operation σ)) :
    Moves (fun _ _ => True) session (session.follow (operations.map .operation)).2 := by
  induction operations generalizing session with
  | nil => exact .refl
  | cons operation operations ih =>
      exact (operate_moves (within_any operation) session).trans (ih _)

end Session

/-- With whatever history a run is taken up, operations keep the number of each state run that is
there, and every retry is counted on from the state run before it. A retry that has no number stops
the program and changes nothing; that happens behind the last number of all, and so to no operation
as long as the last number there was and the state runs appended since stay below it together. A run
to the end does not come to it by itself, as it retries a failed state run only below the budget of
the state. -/
theorem retries_counted [ContainerService σ] [RunRepository ρ] (session : Session σ ρ)
    (operations : List (Operation σ)) :
    let reached := (session.follow (operations.map .operation)).2
    let count := session.run.history.length
    session.run.Continues reached.run ∧
    RelatedFrom count (StateRun.Appended session.run) reached.run.history ∧
    (reached.Overflows .retry ↔ reached.run.status.isTerminal = false ∧
      ∃ current, reached.run.current? = some current ∧
        (current.status = .failed ∨ current.status = .cancelled) ∧
        current.retryNumber.toNat + 1 = 2 ^ 32) ∧
    (reached.Overflows .retry → (reached.operate .retry).2 = reached) ∧
    (session.run.lastNumber + (reached.run.history.length - count) + 1 < 2 ^ 32 →
      ∀ operation, ¬reached.Overflows operation) ∧
    ∀ cancel maxRounds,
      (reached.Overflows (.runToEnd cancel maxRounds) →
        ∃ current, reached.run.current? = some current ∧ current.status = .cancelled ∧
          current.retryNumber.toNat + 1 = 2 ^ 32) ∧
      ((reached.run.status = .created → reached.run.history = []) →
        let final := (reached.operate (.runToEnd cancel maxRounds)).2
        ∀ index earlier later, reached.run.history.length ≤ index + 1 →
          final.run.history[index]? = some earlier → final.run.history[index + 1]? = some later →
            earlier.status = .failed →
              earlier.retryNumber < earlier.definition.retryCount ∧
                later.retryNumber.toNat = earlier.retryNumber.toNat + 1) := by
  intro reached count
  have moves := Session.operations_moves session operations
  have continues : session.run.Continues reached.run := moves.continues
  have opened : session.run.GrownFrom session.run := ⟨rfl, id, .length _⟩
  have appended : RelatedFrom count (StateRun.Appended session.run) reached.run.history :=
    (Session.Keeps.moves (Session.keeps_grownFrom _) moves opened).appended
  refine ⟨continues, appended, ?_, ?_, ?_, fun cancel maxRounds => ⟨?_, ?_⟩⟩
  · simp only [Session.overflows_retry_iff, toNat_add_one_eq_iff]
  · intro overflows
    obtain ⟨active, current, last, stuck, above⟩ := Session.overflows_retry_iff.mp overflows
    rw [Session.retry_overflows active last stuck above]
  · intro few operation overflows
    obtain ⟨current, last, _, above⟩ := Session.last_of_overflows overflows
    have final := toNat_add_one_eq_iff.mpr above
    have bound := continues.lastNumber_le appended
    rw [WorkflowRun.lastNumber, last, Option.map_some, Option.getD_some] at bound
    omega
  · intro overflows
    obtain ⟨current, last, cancelled, above⟩ := Session.last_of_runToEnd_overflows overflows
    exact ⟨current, last, cancelled, toNat_add_one_eq_iff.mpr above⟩
  · intro unstarted final index earlier later from_ found foundLater failed
    have frugal := Session.runToEnd_frugal unstarted cancel maxRounds
    have within := frugal reached.run.history.length (.length _) (index + 1) later from_ foundLater
    obtain ⟨below, counted⟩ := within earlier found failed
    exact ⟨below, by rw [counted, toNat_add_one (toNat_add_one_lt_size below)]⟩

def WorkflowRun.worn (retryNumber : UInt32) : WorkflowRun :=
  let definition : StateDefinition :=
    ⟨"task", "small", "prepare", ["left", "right"], none, some "compute", false, none, 1⟩
  { WorkflowRun.fresh "run" "environment" .sample .epoch with
    history := [⟨"prepare", definition, [], .cancelled, retryNumber, .epoch⟩]
    status := .started }

def Session.wornSample (retryNumber : UInt32) : Session ScriptedContainers MemoryRepository :=
  .takeUp (.worn retryNumber) "runner"
    ⟨ScriptedContainers.fresh.setDefault .failed,
      ⟨SortedMap.empty.insert "run" (.worn retryNumber)⟩, .epoch⟩

/-- A run to the end retries the cancelled state run, whose budget was spent, and gives up when that
has failed. -/
theorem retries_counted_of_worn :
    let reached := ((Session.wornSample 7).follow ([.refresh].map .operation)).2
    let final := (reached.operate (.runToEnd (fun _ service => (false, service)) 9)).2
    (∀ operation, ¬reached.Overflows operation) ∧
      final.run.history.map (fun stateRun => stateRun.retryNumber.toNat) = [7, 8] ∧
      final.run.status = .failed := by
  obtain ⟨-, -, -, -, few, -⟩ := retries_counted (Session.wornSample 7) [.refresh]
  exact ⟨few (by decide +kernel), by decide +kernel, by decide +kernel⟩

/-- A run that can be read from its text has the last number of all, and its retry stops the
program. -/
theorem retry_number_overflows :
    WorkflowRun.ofText (WorkflowRun.worn 4294967295).toText = .ok (.worn 4294967295) ∧
    Session.load "run" "runner" (Session.wornSample 4294967295).toSurroundings =
      .ok (.wornSample 4294967295) ∧
    (Session.wornSample 4294967295).operate .retry =
      (.error .overflow, .wornSample 4294967295) :=
  ⟨WorkflowRun.ofText_toText _, rfl,
    Session.retry_overflows rfl rfl (.inr rfl) (by decide)⟩

end PrivateComputation
