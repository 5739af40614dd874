import PrivateComputation.Containers.Recorded
import PrivateComputation.Proofs.Session.History

/-!
The status of a workflow is always borne out by its state runs, and nothing changes any more once a
workflow has ended.
-/

namespace PrivateComputation

variable {σ ρ : Type}

structure WorkflowRun.Justified (run : WorkflowRun) : Prop where
  created : run.status = .created → run.history = []
  completed : run.status = .completed →
    ∃ last, run.current? = some last ∧ last.status = .completed ∧
      last.definition.successor = none
  failed : run.status = .failed →
    ∃ last, run.current? = some last ∧ last.status = .failed ∧
      last.definition.retryCount ≤ last.retryNumber
  ended : run.status.isTerminal = true → ∀ stateRun ∈ run.history, stateRun.status ≠ .started

theorem StateRun.retriesExhausted_iff (stateRun : StateRun) :
    stateRun.retriesExhausted = true ↔
      stateRun.status = .failed ∧ stateRun.definition.retryCount ≤ stateRun.retryNumber := by
  simp [StateRun.retriesExhausted]

theorem CoherentHistory.justified {run : WorkflowRun}
    (coherent : CoherentHistory run.workflow run.status run.history) : run.Justified where
  created := coherent.unstarted
  completed := coherent.completed
  failed := by
    intro failed
    obtain ⟨last, found, exhausted⟩ := coherent.failed failed
    obtain ⟨stuck, spent⟩ := last.retriesExhausted_iff.mp exhausted
    exact ⟨last, found, stuck, spent⟩
  ended := coherent.not_started

namespace Session

structure Ended (session : Session σ ρ) : Prop where
  terminal : session.run.status.isTerminal = true
  resting : session.running? = none

theorem Coherent.ended {session : Session σ ρ} (coherent : session.Coherent)
    (terminal : session.run.status.isTerminal = true) : session.Ended := by
  refine ⟨terminal, running?_eq_none_iff.mpr ?_⟩
  intro current last
  exact coherent.resting terminal current last

variable [ContainerService σ] [RunRepository ρ]

theorem Moves.coherent {world : σ → σ → Prop} {before after : Session σ ρ}
    (moves : Moves world before after) (coherent : before.Coherent) : after.Coherent := by
  induction moves with
  | refl => exact coherent
  | tail _ move ih => exact move.coherent ih

theorem coherent_operations {session : Session σ ρ} (coherent : session.Coherent)
    (operations : List (Operation σ)) :
    (session.follow (operations.map .operation)).2.Coherent := by
  induction operations generalizing session with
  | nil => exact coherent
  | cons operation operations ih =>
      have moves := operate_moves (within_any operation) session
      exact ih (moves.coherent coherent)

omit [ContainerService σ] in
theorem coherent_begin {id environmentId runner : String} {workflow : Workflow}
    {surroundings : Surroundings σ ρ} {session : Session σ ρ}
    (begun : (begin id environmentId workflow runner surroundings).1 = .ok session) :
    session.Coherent := by
  obtain ⟨_, rfl⟩ := begin_ok begun
  exact CoherentHistory.fresh workflow

/-! ## Nothing changes after the end -/

namespace Ended

variable {session : Session σ ρ}

omit [ContainerService σ] [RunRepository ρ] in
theorem not_created (ended : session.Ended) : session.run.status ≠ .created := by
  intro created
  have terminal := ended.terminal
  rw [created] at terminal
  cases terminal

omit [ContainerService σ] [RunRepository ρ] in
theorem recount (ended : session.Ended) (answers : List Bool) :
    ({ session with cancelAnswers := answers } : Session σ ρ).Ended :=
  ⟨ended.terminal, ended.resting⟩

theorem start (ended : session.Ended) :
    ((Session.start : SessionM σ ρ Unit).perform session).2 = session := by
  rw [perform_start, if_neg ended.not_created]

theorem refresh (ended : session.Ended) :
    (Session.refresh : SessionM σ ρ WorkflowStatus).perform session =
      (.ok session.run.status, session) := by
  rw [perform_refresh, if_pos ended.terminal]

theorem next (ended : session.Ended) :
    ((Session.next : SessionM σ ρ Unit).perform session).2 = session := by
  rw [perform_next, ended.refresh]
  dsimp only
  cases session.run.current? with
  | none => rfl
  | some current =>
      dsimp only
      split
      next going =>
        have terminal := ended.terminal
        rw [going.1] at terminal
        cases terminal
      next => rfl

theorem retry (ended : session.Ended) :
    ((Session.retry : SessionM σ ρ Unit).perform session).2 = session := by
  rw [perform_retry, if_pos ended.terminal]

theorem cancelState (ended : session.Ended) :
    ((Session.cancelState : SessionM σ ρ Unit).perform session).2 = session := by
  -- Only the state run is looked at, not the status of the workflow.
  rw [perform_cancelState, ended.resting]

theorem cancelWorkflow (ended : session.Ended) :
    ((Session.cancelWorkflow : SessionM σ ρ Unit).perform session).2 = session := by
  rw [perform_cancelWorkflow, if_pos ended.terminal]

theorem waitForState (ended : session.Ended) (polls : Nat) :
    ((Session.waitForState polls : SessionM σ ρ (Option WorkflowStatus)).perform session).2 =
      session := by
  cases polls with
  | zero => rfl
  | succ polls =>
      rw [perform_waitForState_succ, ended.refresh]
      dsimp only
      cases session.run.current? with
      | none => rfl
      | some current =>
          dsimp only
          rw [if_pos (.inr ended.terminal)]

theorem rounds (ended : session.Ended) (cancel : Nat → σ → Bool × σ) (count : Nat) :
    ((Session.rounds cancel count : SessionM σ ρ (Option WorkflowStatus)).perform session).2 =
      session := by
  cases count with
  | zero => rfl
  | succ count => rw [perform_rounds_succ, if_pos ended.terminal]

theorem runToEnd (ended : session.Ended) (cancel : Nat → σ → Bool × σ) (maxRounds : Nat) :
    ((Session.runToEnd cancel maxRounds : SessionM σ ρ (Option WorkflowStatus)).perform
      session).2 = { session with cancelAnswers := [] } := by
  rw [perform_runToEnd, if_neg ended.not_created]
  exact (ended.recount []).rounds cancel maxRounds

theorem operate (ended : session.Ended) (operation : Operation σ) :
    ∃ answers, (session.operate operation).2 = { session with cancelAnswers := answers } := by
  have still : ∀ after : Session σ ρ, after = session →
      ∃ answers, after = { session with cancelAnswers := answers } := by
    intro after same
    exact ⟨session.cancelAnswers, same⟩
  cases operation with
  | start => exact still _ ((congrArg Prod.snd (operate_start session)).trans ended.start)
  | next => exact still _ ((congrArg Prod.snd (operate_next session)).trans ended.next)
  | retry => exact still _ ((congrArg Prod.snd (operate_retry session)).trans ended.retry)
  | cancelState =>
      exact still _ ((congrArg Prod.snd (operate_cancelState session)).trans ended.cancelState)
  | cancelWorkflow =>
      exact still _
        ((congrArg Prod.snd (operate_cancelWorkflow session)).trans ended.cancelWorkflow)
  | refresh =>
      have same :
          ((Session.refresh : SessionM σ ρ WorkflowStatus).perform session).2 = session := by
        rw [ended.refresh]
      exact still _ ((congrArg Prod.snd (operate_refresh session)).trans same)
  | waitForState polls =>
      exact still _
        ((congrArg Prod.snd (operate_waitForState session polls)).trans (ended.waitForState polls))
  | runToEnd cancel maxRounds =>
      exact ⟨[], (congrArg Prod.snd (operate_runToEnd session cancel maxRounds)).trans
        (ended.runToEnd cancel maxRounds)⟩

theorem operations (ended : session.Ended) (operations : List (Operation σ)) :
    ∃ answers, (session.follow (operations.map .operation)).2 =
      { session with cancelAnswers := answers } := by
  induction operations generalizing session with
  | nil => exact ⟨session.cancelAnswers, rfl⟩
  | cons operation operations ih =>
      obtain ⟨answers, first⟩ := ended.operate operation
      obtain ⟨others, rest⟩ := ih (ended.recount answers)
      refine ⟨others, ?_⟩
      change ((session.operate operation).2.follow (operations.map .operation)).2 = _
      rw [first, rest]

end Ended

end Session

/-- The status of a run is justified after any operations, whatever the containers do and whatever
becomes of writes; once the workflow has ended, no further operations change the run or the
repository, or call the container service. -/
theorem ended_workflow [ContainerService σ] [RunRepository ρ]
    (id environmentId runner : String) (workflow : Workflow)
    (surroundings : Surroundings (Recorded σ) ρ) (session : Session (Recorded σ) ρ)
    (begun : (Session.begin id environmentId workflow runner surroundings).1 = .ok session)
    (operations : List (Operation (Recorded σ))) :
    let reached := (session.follow (operations.map .operation)).2
    reached.run.Justified ∧
      (reached.run.status.isTerminal = true →
        ∀ further : List (Operation (Recorded σ)),
          let final := (reached.follow (further.map .operation)).2
          final.run = reached.run ∧ final.repository = reached.repository ∧
            final.service.requests = reached.service.requests ∧
            final.service = reached.service) := by
  intro reached
  have coherent : reached.Coherent :=
    Session.coherent_operations (Session.coherent_begin begun) operations
  refine ⟨coherent.justified, ?_⟩
  intro terminal further final
  obtain ⟨answers, same⟩ := (coherent.ended terminal).operations further
  have unchanged : final = { reached with cancelAnswers := answers } := same
  rw [unchanged]
  exact ⟨rfl, rfl, rfl, rfl⟩

def Session.recordedSample : Session (Recorded ScriptedContainers) MemoryRepository :=
  .sample ⟨.fresh, []⟩
    ⟨SortedMap.empty.insert "run" (.fresh "run" "environment" .sample Instant.epoch.next)⟩

def Session.cancelledSample : Session (Recorded ScriptedContainers) MemoryRepository :=
  (recordedSample.follow ([.start, .cancelWorkflow].map .operation)).2

theorem ended_workflow_of_cancellation :
    (Session.begin "run" "environment" .sample "runner"
        ⟨(⟨.fresh, []⟩ : Recorded ScriptedContainers), MemoryRepository.empty, .epoch⟩).1 =
      .ok .recordedSample ∧
    Session.cancelledSample.run.status = .cancelled ∧
    Session.cancelledSample.service.requests =
      [.create "small"
          ["runner prepare --exe_args=\"left\"", "runner prepare --exe_args=\"right\""] none,
        .cancel ["mock-1", "mock-2"]] ∧
    Session.cancelledSample.run.Justified ∧
    ∀ further : List (Operation (Recorded ScriptedContainers)),
      let final := (Session.cancelledSample.follow (further.map .operation)).2
      final.run = Session.cancelledSample.run ∧
        final.repository = Session.cancelledSample.repository ∧
        final.service.requests = Session.cancelledSample.service.requests ∧
        final.service = Session.cancelledSample.service := by
  have cancelled : Session.cancelledSample.run.status = .cancelled := by decide +kernel
  have terminal : Session.cancelledSample.run.status.isTerminal = true := by
    rw [cancelled]
    rfl
  obtain ⟨justified, frozen⟩ :=
    ended_workflow "run" "environment" "runner" .sample ⟨⟨.fresh, []⟩, .empty, .epoch⟩
      .recordedSample rfl [.start, .cancelWorkflow]
  exact ⟨rfl, cancelled, by decide +kernel, justified, frozen terminal⟩

end PrivateComputation
