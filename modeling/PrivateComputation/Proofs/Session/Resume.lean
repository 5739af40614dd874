import PrivateComputation.Proofs.Repository.Directory
import PrivateComputation.Proofs.Session.Ended

/-!
A session can be left after any operation and its run taken up again from the repository: apart from
times, everything goes on as in the session that was never left.
-/

namespace PrivateComputation

variable {σ ρ α : Type}

/-! ## Runs without their times -/

def StateRun.untimed (stateRun : StateRun) : StateRun := { stateRun with startedAt := .epoch }

def WorkflowRun.untimed (run : WorkflowRun) : WorkflowRun :=
  { run with
    history := run.history.map StateRun.untimed
    createdAt := .epoch
    updatedAt := .epoch }

namespace StateRun

variable {first second : StateRun}

theorem untimed_refreshed (stateRun : StateRun) :
    stateRun.refreshed.untimed = stateRun.untimed.refreshed := by
  unfold refreshed
  by_cases going : stateRun.status = .started
  · rw [if_pos going, if_pos (show stateRun.untimed.status = .started from going)]
    rfl
  · rw [if_neg going, if_neg (show ¬stateRun.untimed.status = .started from going)]

theorem of_untimed (same : first.untimed = second.untimed) :
    first.stateName = second.stateName ∧ first.definition = second.definition ∧
      first.containers = second.containers ∧ first.status = second.status ∧
      first.retryNumber = second.retryNumber := by
  simp only [untimed, mk.injEq, and_true] at same
  exact same

theorem containerIds_of_untimed (same : first.untimed = second.untimed) :
    first.containerIds = second.containerIds := by
  rw [containerIds, containerIds, (of_untimed same).2.2.1]

end StateRun

namespace WorkflowRun

variable {left right : WorkflowRun}

theorem untimed_with (same : left.untimed = right.untimed) {before after : List StateRun}
    (histories : before.map StateRun.untimed = after.map StateRun.untimed)
    {first second : WorkflowStatus} (statuses : first = second) :
    { left with history := before, status := first }.untimed =
      { right with history := after, status := second }.untimed := by
  simp only [untimed, mk.injEq, and_true] at same ⊢
  obtain ⟨version, schema, id, environment, workflow, _, _⟩ := same
  exact ⟨version, schema, id, environment, workflow, histories, statuses⟩

theorem of_untimed (same : left.untimed = right.untimed) :
    left.id = right.id ∧ left.workflow = right.workflow ∧
      left.history.map StateRun.untimed = right.history.map StateRun.untimed ∧
      left.status = right.status := by
  simp only [untimed, mk.injEq, and_true] at same
  obtain ⟨_, _, id, _, workflow, history, status⟩ := same
  exact ⟨id, workflow, history, status⟩

theorem untimed_withCurrent (same : left.untimed = right.untimed) {first second : StateRun}
    (current : first.untimed = second.untimed) :
    (left.withCurrent first).untimed = (right.withCurrent second).untimed := by
  obtain ⟨_, _, histories, status⟩ := of_untimed same
  have replaced : (left.history.dropLast ++ [first]).map StateRun.untimed =
      (right.history.dropLast ++ [second]).map StateRun.untimed := by
    simp only [List.map_append, List.map_dropLast, histories, List.map_cons, List.map_nil, current]
  exact untimed_with same replaced status

theorem current_of_untimed (same : left.untimed = right.untimed) :
    (left.current? = none ∧ right.current? = none) ∨
      ∃ first second, left.current? = some first ∧ right.current? = some second ∧
        first.untimed = second.untimed := by
  have mapped : left.current?.map StateRun.untimed = right.current?.map StateRun.untimed := by
    rw [current?, current?, ← List.getLast?_map, ← List.getLast?_map, (of_untimed same).2.2.1]
  cases first : left.current? with
  | none =>
      rw [first] at mapped
      exact .inl ⟨rfl, Option.map_eq_none_iff.mp mapped.symm⟩
  | some here =>
      rw [first] at mapped
      obtain ⟨there, second, untimed⟩ := Option.map_eq_some_iff.mp mapped.symm
      exact .inr ⟨here, there, rfl, second, untimed.symm⟩

end WorkflowRun

namespace Session

variable [ContainerService σ] [RunRepository ρ]

/-- Two sessions of one run that differ in times at most, and perhaps in how often they were asked
whether to cancel. -/
structure Alike (counted : Bool) (left right : Session σ ρ) : Prop where
  service : left.service = right.service
  runner : left.runner = right.runner
  run : left.run.untimed = right.run.untimed
  answers : counted = true → left.cancelAnswers = right.cancelAnswers

def Stored (session : Session σ ρ) : Prop :=
  RunRepository.read session.run.id session.repository = .ok session.run

structure Kept [DurableRunRepository ρ] (counted : Bool) (left right : Session σ ρ) : Prop
    extends Alike counted left right where
  leftHolds : DurableRunRepository.Holds left.repository left.run.id
  rightHolds : DurableRunRepository.Holds right.repository right.run.id

structure Synced [DurableRunRepository ρ] (counted : Bool) (left right : Session σ ρ) : Prop
    extends Kept counted left right where
  leftStored : left.Stored
  rightStored : right.Stored

def Agree [DurableRunRepository ρ] (counted : Bool)
    (left right : Except SessionFault α × Session σ ρ) : Prop :=
  left.1 = right.1 ∧ Synced counted left.2 right.2

omit [ContainerService σ] in
theorem Agree.cases [DurableRunRepository ρ] {counted : Bool}
    {one two : Except SessionFault α × Session σ ρ} (agree : Agree counted one two) :
    (∃ fault left right, one = (.error fault, left) ∧ two = (.error fault, right) ∧
        Synced counted left right) ∨
      ∃ value left right, one = (.ok value, left) ∧ two = (.ok value, right) ∧
        Synced counted left right := by
  obtain ⟨answer, left⟩ := one
  obtain ⟨other, right⟩ := two
  obtain ⟨same, synced⟩ := agree
  dsimp only at same synced
  subst same
  cases answer with
  | error fault => exact .inl ⟨fault, left, right, rfl, rfl, synced⟩
  | ok value => exact .inr ⟨value, left, right, rfl, rfl, synced⟩

/-! ## Effects on like sessions -/

namespace Alike

variable {counted : Bool} {left right : Session σ ρ}

omit [ContainerService σ] [RunRepository ρ] in
theorem status (alike : Alike counted left right) : left.run.status = right.run.status :=
  (WorkflowRun.of_untimed alike.run).2.2.2

omit [ContainerService σ] [RunRepository ρ] in
theorem workflow (alike : Alike counted left right) : left.run.workflow = right.run.workflow :=
  (WorkflowRun.of_untimed alike.run).2.1

omit [RunRepository ρ] in
theorem launched (alike : Alike counted left right) (stateName : String)
    (definition : StateDefinition) (retryNumber : UInt32) :
    Alike counted (left.launched stateName definition retryNumber)
      (right.launched stateName definition retryNumber) := by
  refine ⟨?_, alike.runner, ?_, alike.answers⟩
  · simp only [Session.launched, alike.service, alike.runner]
  · refine WorkflowRun.untimed_with alike.run ?_ alike.status
    simp only [alike.service, alike.runner, List.map_append,
      (WorkflowRun.of_untimed alike.run).2.2.1]
    rfl

omit [RunRepository ρ] in
theorem polled (alike : Alike counted left right) {first second : StateRun}
    (current : first.untimed = second.untimed) :
    Alike counted (left.polled first) (right.polled second) := by
  have ids := StateRun.containerIds_of_untimed current
  obtain ⟨name, definition, containers, status, number⟩ := StateRun.of_untimed current
  refine ⟨?_, alike.runner, ?_, alike.answers⟩
  · simp only [Session.polled, alike.service, ids]
  · refine WorkflowRun.untimed_withCurrent alike.run ?_
    rw [StateRun.untimed_refreshed, StateRun.untimed_refreshed]
    simp only [StateRun.untimed, alike.service, ids, name, definition, containers, status, number]

omit [RunRepository ρ] in
theorem stopped (alike : Alike counted left right) {first second : StateRun}
    (current : first.untimed = second.untimed) :
    Alike counted (left.stopped first) (right.stopped second) := by
  have ids := StateRun.containerIds_of_untimed current
  obtain ⟨name, definition, containers, _, number⟩ := StateRun.of_untimed current
  refine ⟨?_, alike.runner, ?_, alike.answers⟩
  · simp only [Session.stopped, alike.service, ids]
  · refine WorkflowRun.untimed_withCurrent alike.run ?_
    simp only [StateRun.untimed, name, definition, containers, number]

omit [ContainerService σ] [RunRepository ρ] in
theorem withStatus (alike : Alike counted left right) (status : WorkflowStatus) :
    Alike counted (left.withStatus status) (right.withStatus status) :=
  ⟨alike.service, alike.runner,
    WorkflowRun.untimed_with alike.run (WorkflowRun.of_untimed alike.run).2.2.1 rfl,
    alike.answers⟩

omit [ContainerService σ] [RunRepository ρ] in
theorem running (alike : Alike counted left right) :
    (left.running? = none ∧ right.running? = none) ∨
      ∃ first second, left.running? = some first ∧ right.running? = some second ∧
        first.untimed = second.untimed := by
  rcases WorkflowRun.current_of_untimed alike.run with ⟨first, second⟩ |
    ⟨here, there, first, second, current⟩
  · exact .inl ⟨by rw [running?, first], by rw [running?, second]⟩
  · obtain ⟨_, _, _, status, _⟩ := StateRun.of_untimed current
    simp only [running?, first, second, status]
    split
    · exact .inr ⟨here, there, rfl, rfl, current⟩
    · exact .inl ⟨rfl, rfl⟩

omit [ContainerService σ] [RunRepository ρ] in
theorem refusal (alike : Alike counted left right) (operation : String) :
    left.refusal operation = right.refusal operation := by
  have current :
      left.run.current?.map StateRun.status = right.run.current?.map StateRun.status := by
    rcases WorkflowRun.current_of_untimed alike.run with ⟨first, second⟩ |
      ⟨here, there, first, second, current⟩
    · rw [first, second]
    · obtain ⟨_, _, _, status, _⟩ := StateRun.of_untimed current
      rw [first, second, Option.map_some, Option.map_some, status]
  rw [Session.refusal, Session.refusal, alike.status, current]

end Alike

variable [DurableRunRepository ρ] {counted : Bool} {left right : Session σ ρ}

omit [ContainerService σ] in
theorem saved_of_holds {session : Session σ ρ}
    (holds : DurableRunRepository.Holds session.repository session.run.id) :
    session.saved.1 = .ok () ∧
      DurableRunRepository.Holds session.saved.2.repository session.saved.2.run.id ∧
      session.saved.2.Stored := by
  have written := DurableRunRepository.holds_update session.touched.run session.repository holds
  have back := LawfulRunRepository.read_update session.touched.run session.repository written.1
  refine ⟨?_, written.2, back⟩
  rw [saved, written.1]
  rfl

namespace Kept

theorem launched (kept : Kept counted left right) (stateName : String)
    (definition : StateDefinition) (retryNumber : UInt32) :
    Kept counted (left.launched stateName definition retryNumber)
      (right.launched stateName definition retryNumber) :=
  ⟨kept.toAlike.launched stateName definition retryNumber, kept.leftHolds, kept.rightHolds⟩

theorem polled (kept : Kept counted left right) {first second : StateRun}
    (current : first.untimed = second.untimed) :
    Kept counted (left.polled first) (right.polled second) :=
  ⟨kept.toAlike.polled current, kept.leftHolds, kept.rightHolds⟩

theorem stopped (kept : Kept counted left right) {first second : StateRun}
    (current : first.untimed = second.untimed) :
    Kept counted (left.stopped first) (right.stopped second) :=
  ⟨kept.toAlike.stopped current, kept.leftHolds, kept.rightHolds⟩

omit [ContainerService σ] in
theorem withStatus (kept : Kept counted left right) (status : WorkflowStatus) :
    Kept counted (left.withStatus status) (right.withStatus status) :=
  ⟨kept.toAlike.withStatus status, kept.leftHolds, kept.rightHolds⟩

omit [ContainerService σ] in
theorem saved (kept : Kept counted left right) : Agree counted left.saved right.saved := by
  obtain ⟨first, leftHolds, leftStored⟩ := saved_of_holds kept.leftHolds
  obtain ⟨second, rightHolds, rightStored⟩ := saved_of_holds kept.rightHolds
  refine ⟨first.trans second.symm, ⟨⟨?_, leftHolds, rightHolds⟩, leftStored, rightStored⟩⟩
  exact ⟨kept.service, kept.runner, kept.run, kept.answers⟩

end Kept

/-! ## Operations of like sessions -/

namespace Synced

theorem start (synced : Synced counted left right) :
    Agree counted ((Session.start : SessionM σ ρ Unit).perform left)
      ((Session.start : SessionM σ ρ Unit).perform right) := by
  rw [perform_start, perform_start, synced.status, synced.workflow, synced.refusal]
  split
  · cases right.run.workflow.state? right.run.workflow.startsAt with
    | none => exact ⟨rfl, synced⟩
    | some definition => exact ((synced.toKept.launched _ _ _).withStatus _).saved
  · exact ⟨rfl, synced⟩

theorem refresh (synced : Synced counted left right) :
    Agree counted ((Session.refresh : SessionM σ ρ WorkflowStatus).perform left)
      ((Session.refresh : SessionM σ ρ WorkflowStatus).perform right) := by
  rw [perform_refresh, perform_refresh, synced.status]
  split
  · exact ⟨rfl, synced⟩
  · rcases synced.running with ⟨first, second⟩ | ⟨here, there, first, second, current⟩
    · rw [first, second]
      exact ⟨rfl, synced⟩
    · rw [first, second]
      obtain ⟨answers, after⟩ := (synced.toKept.polled current).saved
      refine ⟨?_, after⟩
      dsimp only
      rw [answers]

theorem next (synced : Synced counted left right) :
    Agree counted ((Session.next : SessionM σ ρ Unit).perform left)
      ((Session.next : SessionM σ ρ Unit).perform right) := by
  rw [perform_next, perform_next]
  rcases synced.refresh.cases with ⟨fault, left, right, one, two, synced⟩ |
    ⟨status, left, right, one, two, synced⟩
  · rw [one, two]
    exact ⟨rfl, synced⟩
  · rw [one, two]
    dsimp only
    rw [synced.refusal]
    rcases WorkflowRun.current_of_untimed synced.run with ⟨first, second⟩ |
      ⟨here, there, first, second, current⟩
    · rw [first, second]
      exact ⟨rfl, synced⟩
    · rw [first, second]
      obtain ⟨_, definition, _, status, _⟩ := StateRun.of_untimed current
      dsimp only
      rw [synced.status, status, definition, synced.workflow]
      split
      · cases there.definition.successor with
        | none => exact (synced.toKept.withStatus _).saved
        | some stateName =>
            dsimp only
            cases right.run.workflow.state? stateName with
            | none => exact ⟨rfl, synced⟩
            | some definition => exact (synced.toKept.launched _ _ _).saved
      · exact ⟨rfl, synced⟩

theorem cancelState (synced : Synced counted left right) :
    Agree counted ((Session.cancelState : SessionM σ ρ Unit).perform left)
      ((Session.cancelState : SessionM σ ρ Unit).perform right) := by
  rw [perform_cancelState, perform_cancelState]
  rcases synced.running with ⟨first, second⟩ | ⟨here, there, first, second, current⟩
  · rw [first, second]
    exact ⟨rfl, synced⟩
  · rw [first, second]
    exact (synced.toKept.stopped current).saved

theorem cancelWorkflow (synced : Synced counted left right) :
    Agree counted ((Session.cancelWorkflow : SessionM σ ρ Unit).perform left)
      ((Session.cancelWorkflow : SessionM σ ρ Unit).perform right) := by
  rw [perform_cancelWorkflow, perform_cancelWorkflow, synced.status]
  split
  · exact ⟨rfl, synced⟩
  · rcases synced.cancelState.cases with ⟨fault, left, right, one, two, synced⟩ |
      ⟨_, left, right, one, two, synced⟩
    · rw [one, two]
      exact ⟨rfl, synced⟩
    · rw [one, two]
      exact (synced.toKept.withStatus _).saved

theorem retry (synced : Synced counted left right) :
    Agree counted ((Session.retry : SessionM σ ρ Unit).perform left)
      ((Session.retry : SessionM σ ρ Unit).perform right) := by
  rw [perform_retry, perform_retry, synced.status]
  split
  · exact ⟨rfl, synced⟩
  · rcases WorkflowRun.current_of_untimed synced.run with ⟨first, second⟩ |
      ⟨here, there, first, second, current⟩
    · rw [first, second]
      exact ⟨rfl, synced⟩
    · rw [first, second]
      obtain ⟨name, _, _, status, number⟩ := StateRun.of_untimed current
      dsimp only
      rw [status, name, number, synced.workflow]
      split
      · split
        · cases right.run.workflow.state? there.stateName with
          | none => exact ⟨rfl, synced⟩
          | some definition => exact (synced.toKept.launched _ _ _).saved
        · exact ⟨rfl, synced⟩
      · exact ⟨rfl, synced⟩

/-! ## Loops of like sessions -/

theorem paused (synced : Synced counted left right) :
    Synced counted left.paused right.paused := by
  have service : left.paused.service = right.paused.service := by
    rw [Session.paused, Session.paused, synced.service]
  exact ⟨⟨⟨service, synced.runner, synced.run, synced.answers⟩, synced.leftHolds,
    synced.rightHolds⟩, synced.leftStored, synced.rightStored⟩

theorem waitForState (synced : Synced counted left right) (polls : Nat) :
    Agree counted
      ((Session.waitForState polls : SessionM σ ρ (Option WorkflowStatus)).perform left)
      ((Session.waitForState polls : SessionM σ ρ (Option WorkflowStatus)).perform right) := by
  induction polls generalizing left right with
  | zero => exact ⟨rfl, synced⟩
  | succ polls ih =>
      rw [perform_waitForState_succ, perform_waitForState_succ]
      rcases synced.refresh.cases with ⟨fault, left, right, one, two, synced⟩ |
        ⟨status, left, right, one, two, synced⟩
      · rw [one, two]
        exact ⟨rfl, synced⟩
      · rw [one, two]
        dsimp only
        rcases WorkflowRun.current_of_untimed synced.run with ⟨first, second⟩ |
          ⟨here, there, first, second, current⟩
        · rw [first, second]
          exact ⟨rfl, synced⟩
        · rw [first, second]
          obtain ⟨_, _, _, same, _⟩ := StateRun.of_untimed current
          dsimp only
          rw [same]
          split
          · exact ⟨rfl, synced⟩
          · exact ih synced.paused

omit [ContainerService σ] in
theorem asked (synced : Synced true left right) (cancel : Nat → σ → Bool × σ) :
    left.cancelAnswer cancel = right.cancelAnswer cancel ∧
      Synced true (left.asked cancel) (right.asked cancel) := by
  have answers := synced.answers rfl
  have answer : left.cancelAnswer cancel = right.cancelAnswer cancel := by
    rw [cancelAnswer, cancelAnswer, answers, synced.service]
  have service : (left.asked cancel).service = (right.asked cancel).service := by
    rw [Session.asked, Session.asked, answers, synced.service]
  refine ⟨answer, ⟨⟨service, synced.runner, synced.run, ?_⟩, synced.leftHolds,
    synced.rightHolds⟩, synced.leftStored, synced.rightStored⟩
  intro _
  rw [Session.asked, Session.asked, answers, answer]

theorem proceeded (synced : Synced counted left right) :
    Agree counted left.proceeded right.proceeded := by
  simp only [Session.proceeded]
  rcases synced.refresh.cases with ⟨fault, left, right, one, two, synced⟩ |
    ⟨status, left, right, one, two, synced⟩
  · rw [one, two]
    exact ⟨rfl, synced⟩
  · rw [one, two]
    dsimp only
    split
    · exact ⟨rfl, synced⟩
    · rcases WorkflowRun.current_of_untimed synced.run with ⟨first, second⟩ |
        ⟨here, there, first, second, current⟩
      · rw [first, second]
        exact ⟨rfl, synced⟩
      · rw [first, second]
        obtain ⟨_, definition, _, same, number⟩ := StateRun.of_untimed current
        have exhausted : here.retriesExhausted = there.retriesExhausted := by
          rw [StateRun.retriesExhausted, StateRun.retriesExhausted, same, definition, number]
        dsimp only
        rw [same, exhausted]
        cases there.status with
        | completed => exact synced.next
        | created | started => exact ⟨rfl, synced.paused⟩
        | failed | cancelled =>
            dsimp only
            split
            · exact (synced.toKept.withStatus _).saved
            · exact synced.retry

theorem round (synced : Synced true left right) (cancel : Nat → σ → Bool × σ) :
    Agree true ((Session.round cancel : SessionM σ ρ Unit).perform left)
      ((Session.round cancel : SessionM σ ρ Unit).perform right) := by
  obtain ⟨answer, synced⟩ := synced.asked cancel
  rw [perform_round, perform_round, answer]
  split
  · exact synced.cancelWorkflow
  · exact synced.proceeded

theorem rounds (synced : Synced true left right) (cancel : Nat → σ → Bool × σ) (count : Nat) :
    Agree true
      ((Session.rounds cancel count : SessionM σ ρ (Option WorkflowStatus)).perform left)
      ((Session.rounds cancel count : SessionM σ ρ (Option WorkflowStatus)).perform right) := by
  induction count generalizing left right with
  | zero =>
      rw [perform_rounds_zero, perform_rounds_zero, synced.status]
      exact ⟨rfl, synced⟩
  | succ count ih =>
      rw [perform_rounds_succ, perform_rounds_succ, synced.status]
      split
      · exact ⟨rfl, synced⟩
      · rcases (synced.round cancel).cases with ⟨fault, left, right, one, two, synced⟩ |
          ⟨_, left, right, one, two, synced⟩
        · rw [one, two]
          exact ⟨rfl, synced⟩
        · rw [one, two]
          exact ih synced

omit [ContainerService σ] in
theorem uncounted (synced : Synced true left right) : Synced counted left right :=
  ⟨⟨⟨synced.service, synced.runner, synced.run, fun _ => synced.answers rfl⟩, synced.leftHolds,
    synced.rightHolds⟩, synced.leftStored, synced.rightStored⟩

theorem runToEnd (synced : Synced counted left right) (cancel : Nat → σ → Bool × σ)
    (maxRounds : Nat) :
    Agree counted
      ((Session.runToEnd cancel maxRounds : SessionM σ ρ (Option WorkflowStatus)).perform left)
      ((Session.runToEnd cancel maxRounds : SessionM σ ρ (Option WorkflowStatus)).perform
        right) := by
  have recounted : Synced true { left with cancelAnswers := [] }
      { right with cancelAnswers := [] } :=
    ⟨⟨⟨synced.service, synced.runner, synced.run, fun _ => rfl⟩, synced.leftHolds,
      synced.rightHolds⟩, synced.leftStored, synced.rightStored⟩
  rw [perform_runToEnd, perform_runToEnd, synced.status]
  split
  · rcases recounted.start.cases with ⟨fault, left, right, one, two, synced⟩ |
      ⟨_, left, right, one, two, synced⟩
    · rw [one, two]
      exact ⟨rfl, synced.uncounted⟩
    · rw [one, two]
      obtain ⟨answer, after⟩ := synced.rounds cancel maxRounds
      exact ⟨answer, after.uncounted⟩
  · obtain ⟨answer, after⟩ := recounted.rounds cancel maxRounds
    exact ⟨answer, after.uncounted⟩

theorem operate (synced : Synced counted left right) (operation : Operation σ) :
    Agree counted (left.operate operation) (right.operate operation) := by
  have mapped : ∀ {β : Type} {one two : Except SessionFault β × Session σ ρ} (view : β → Reply),
      Agree counted one two → Agree counted (one.1.map view, one.2) (two.1.map view, two.2) := by
    intro β one two view agree
    exact ⟨by dsimp only; rw [agree.1], agree.2⟩
  cases operation with
  | start =>
      rw [operate_start, operate_start]
      exact mapped _ synced.start
  | next =>
      rw [operate_next, operate_next]
      exact mapped _ synced.next
  | retry =>
      rw [operate_retry, operate_retry]
      exact mapped _ synced.retry
  | cancelState =>
      rw [operate_cancelState, operate_cancelState]
      exact mapped _ synced.cancelState
  | cancelWorkflow =>
      rw [operate_cancelWorkflow, operate_cancelWorkflow]
      exact mapped _ synced.cancelWorkflow
  | refresh =>
      rw [operate_refresh, operate_refresh]
      exact mapped _ synced.refresh
  | waitForState polls =>
      rw [operate_waitForState, operate_waitForState]
      exact mapped _ (synced.waitForState polls)
  | runToEnd cancel maxRounds =>
      rw [operate_runToEnd, operate_runToEnd]
      exact mapped _ (synced.runToEnd cancel maxRounds)

end Synced

end Session

/-! ## Sessions that are taken up again -/

def Event.isReload : Event σ → Bool
  | .reload _ _ => true
  | .operation _ | .meanwhile _ => false

namespace Session

/-- A session goes on through some events as it does when it is never left: it answers the same,
asks the same of the containers and comes to the same run, apart from times; and its run always
stands in the repository as it is. -/
structure Transparent [ContainerService σ] [RunRepository ρ] (session : Session (Recorded σ) ρ)
    (events : List (Event (Recorded σ))) : Prop where
  answers : (session.follow events).1 =
    (session.follow (events.filter (fun event => !event.isReload))).1
  requests : (session.follow events).2.service.requests =
    (session.follow (events.filter (fun event => !event.isReload))).2.service.requests
  service : (session.follow events).2.service =
    (session.follow (events.filter (fun event => !event.isReload))).2.service
  run : (session.follow events).2.run.untimed =
    (session.follow (events.filter (fun event => !event.isReload))).2.run.untimed
  stored : ∀ front, front <+: events → (session.follow front).2.Stored

section Following

variable [ContainerService σ] [RunRepository ρ] [DurableRunRepository ρ]

theorem Synced.reload {counted : Bool} {left right : Session σ ρ}
    (synced : Synced counted left right) (now : Instant) :
    (left.react (.reload left.runner now)).1 = [] ∧
      Synced false (left.react (.reload left.runner now)).2 right := by
  have stored : RunRepository.read left.run.id left.repository = .ok left.run := synced.leftStored
  have taken : left.react (.reload left.runner now) =
      ([], takeUp left.run left.runner { left.toSurroundings with now }) := by
    simp only [react, load, stored]
  rw [taken]
  refine ⟨rfl, ⟨⟨⟨synced.service, synced.runner, synced.run, ?_⟩, synced.leftHolds,
    synced.rightHolds⟩, stored, synced.rightStored⟩⟩
  intro never
  cases never

omit [DurableRunRepository ρ] in
theorem Moves.runner {world : σ → σ → Prop} {before after : Session σ ρ}
    (moves : Moves world before after) : after.runner = before.runner := by
  induction moves with
  | refl => rfl
  | tail _ move ih =>
      rw [← ih]
      cases move <;> rfl

theorem Synced.follow {left right : Session σ ρ} (synced : Synced false left right)
    (events : List (Event σ))
    (sameRunner : ∀ other now, .reload other now ∈ events → other = left.runner) :
    (left.follow events).1 = (right.follow (events.filter (fun event => !event.isReload))).1 ∧
      Synced false (left.follow events).2
        (right.follow (events.filter (fun event => !event.isReload))).2 := by
  induction events generalizing left right with
  | nil => exact ⟨rfl, synced⟩
  | cons event events ih =>
      cases event with
      | operation operation =>
          obtain ⟨answer, after⟩ := synced.operate operation
          have runner := (operate_moves (within_any operation) left).runner
          obtain ⟨answers, final⟩ := ih after (by
            intro other now member
            rw [runner]
            exact sameRunner other now (List.mem_cons_of_mem _ member))
          refine ⟨?_, final⟩
          change (left.operate operation).1 :: ((left.operate operation).2.follow events).1 =
            (right.operate operation).1 ::
              ((right.operate operation).2.follow
                (events.filter (fun event => !event.isReload))).1
          rw [answer, answers]
      | meanwhile change =>
          have after : Synced false { left with service := change left.service }
              { right with service := change right.service } :=
            ⟨⟨⟨congrArg change synced.service, synced.runner, synced.run, synced.answers⟩,
              synced.leftHolds, synced.rightHolds⟩, synced.leftStored, synced.rightStored⟩
          exact ih after (fun other now member =>
            sameRunner other now (List.mem_cons_of_mem _ member))
      | reload runner now =>
          obtain rfl := sameRunner runner now List.mem_cons_self
          obtain ⟨silent, after⟩ := synced.reload now
          obtain ⟨answers, final⟩ := ih after (by
            intro other later member
            rw [after.runner, ← synced.runner]
            exact sameRunner other later (List.mem_cons_of_mem _ member))
          refine ⟨?_, final⟩
          change (left.react (.reload left.runner now)).1 ++
            ((left.react (.reload left.runner now)).2.follow events).1 = _
          rw [silent]
          exact answers

omit [ContainerService σ] in
theorem synced_begin {id environmentId runner : String} {workflow : Workflow}
    {surroundings : Surroundings σ ρ} {session : Session σ ρ}
    (begun : (begin id environmentId workflow runner surroundings).1 = .ok session) :
    Synced false session session ∧ session.runner = runner := by
  obtain ⟨created, rfl⟩ := begin_ok begun
  have holds := DurableRunRepository.holds_create _ _ created
  have back := LawfulRunRepository.read_create _ _ created
  exact ⟨⟨⟨⟨rfl, rfl, rfl, fun _ => rfl⟩, holds, holds⟩, back, back⟩, rfl⟩

theorem transparent_of_begin {id environmentId runner : String} {workflow : Workflow}
    {surroundings : Surroundings (Recorded σ) ρ} {session : Session (Recorded σ) ρ}
    (begun : (begin id environmentId workflow runner surroundings).1 = .ok session)
    (events : List (Event (Recorded σ)))
    (sameRunner : ∀ other now, .reload other now ∈ events → other = runner) :
    session.Transparent events := by
  obtain ⟨synced, named⟩ := synced_begin begun
  have same : ∀ front : List (Event (Recorded σ)), front <+: events →
      ∀ other now, .reload other now ∈ front → other = session.runner := by
    intro front part other now member
    rw [named]
    exact sameRunner other now (part.subset member)
  obtain ⟨answers, final⟩ := synced.follow events (same events (List.prefix_refl events))
  refine ⟨answers, ?_, final.service, final.run, ?_⟩
  · rw [final.service]
  · intro front part
    exact (synced.follow front (same front part)).2.leftStored

end Following

end Session

/-- A run that is left at any points between its operations and taken up again with the same runner
goes on as if it had never been left, with runs kept in memory and with runs kept in files. -/
theorem resume_transparent [ContainerService σ] (id environmentId runner : String)
    (workflow : Workflow) (service : Recorded σ) (now : Instant)
    (events : List (Event (Recorded σ)))
    (sameRunner : ∀ other now, .reload other now ∈ events → other = runner) :
    (∀ (repository : MemoryRepository) (session : Session (Recorded σ) MemoryRepository),
      (Session.begin id environmentId workflow runner ⟨service, repository, now⟩).1 =
          .ok session →
        session.Transparent events) ∧
    (∀ (repository : DirectoryRepository) (session : Session (Recorded σ) DirectoryRepository),
      (Session.begin id environmentId workflow runner ⟨service, repository, now⟩).1 =
          .ok session →
        session.Transparent events) := by
  constructor
  · intro repository session begun
    exact Session.transparent_of_begin begun events sameRunner
  · intro repository session begun
    exact Session.transparent_of_begin begun events sameRunner

def Event.resumedSample : List (Event (Recorded ScriptedContainers)) :=
  [.operation .start, .reload "runner" .epoch, .operation .start, .reload "runner" .epoch,
    .operation .next, .reload "runner" .epoch,
    .operation (.runToEnd (fun _ service => (false, service)) 9)]

theorem resume_transparent_of_sample :
    let service : Recorded ScriptedContainers := ⟨.fresh, []⟩
    let inMemory := Session.begin "run" "environment" .sample "runner"
      ⟨service, MemoryRepository.empty, .epoch⟩
    let inFiles := Session.begin "run" "environment" .sample "runner"
      ⟨service, DirectoryRepository.empty, .epoch⟩
    let first := Session.sample service inMemory.2.repository
    let second := Session.sample service inFiles.2.repository
    inMemory.1 = .ok first ∧ inFiles.1 = .ok second ∧
      first.Transparent Event.resumedSample ∧ second.Transparent Event.resumedSample ∧
      (first.follow Event.resumedSample).2.run.status = .completed := by
  intro service inMemory inFiles first second
  have sameRunner : ∀ other now, Event.reload other now ∈ Event.resumedSample →
      other = "runner" := by
    intro other now member
    simp [Event.resumedSample] at member
    exact member.1
  have memoryOpened : inMemory.1 = .ok first := rfl
  have created : (RunRepository.create (.fresh "run" "environment" .sample Instant.epoch.next)
      DirectoryRepository.empty).1 = .ok () := by decide +kernel
  have filesOpened : inFiles.1 = .ok second := by
    simp only [inFiles, second, Session.begin, created]
    rfl
  obtain ⟨memory, files⟩ := resume_transparent "run" "environment" "runner" .sample service .epoch
    Event.resumedSample sameRunner
  exact ⟨memoryOpened, filesOpened, memory _ _ memoryOpened, files _ _ filesOpened,
    by decide +kernel⟩

end PrivateComputation
