import PrivateComputation.Proofs.Session.Underway

/-!
Retry numbers that go over: the program stops where it would retry a state run that has the last
number of all, before it has done anything. A run to the end comes to that only if it begins with
such a state run, and a cancelled one.
-/

namespace PrivateComputation

variable {σ ρ α β : Type} [ContainerService σ] [RunRepository ρ]

namespace Session

variable {session : Session σ ρ} {current : StateRun} {cancel : Nat → σ → Bool × σ}

/-- The call is not answered, as the program stops. -/
def Overflows (session : Session σ ρ) (operation : Operation σ) : Prop :=
  (session.operate operation).1 = .error .overflow

/-! ## Retries -/

section Retry

variable (active : session.run.status.isTerminal = false)
  (last : session.run.current? = some current)

include active last

theorem retry_overflows (stuck : current.status = .failed ∨ current.status = .cancelled)
    (above : ¬current.retryNumber.toNat + 1 < UInt32.size) :
    session.operate .retry = (.error .overflow, session) := by
  rw [operate_retry, perform_retry, if_neg (by simp [active]), last]
  dsimp only
  rw [if_pos stuck, if_neg above]
  rfl

end Retry

/-! ## Answers -/

def Counts (answer : Except SessionFault α) : Prop := answer ≠ .error .overflow

theorem Counts.failed {fault : SessionFault}
    (counts : Counts (.error fault : Except SessionFault α)) :
    Counts (.error fault : Except SessionFault β) := by
  intro overflows
  cases overflows
  exact counts rfl

theorem Counts.map {answer : Except SessionFault α} (counts : Counts answer) (view : α → β) :
    Counts (answer.map view) := by
  cases answer with
  | error fault => exact counts.failed
  | ok value => simp [Counts, Except.map]

omit [ContainerService σ] in
theorem counts_saved (session : Session σ ρ) : Counts session.saved.1 := by
  rw [saved]
  cases (RunRepository.update session.touched.run session.repository).1 <;>
    simp [Counts, Except.mapError]

theorem counts_refresh (session : Session σ ρ) :
    Counts ((refresh : SessionM σ ρ WorkflowStatus).perform session).1 := by
  rw [perform_refresh]
  split
  · simp [Counts]
  · cases session.running? with
    | none => simp [Counts]
    | some current => exact (counts_saved _).map _

theorem counts_waitForState (session : Session σ ρ) (polls : Nat) :
    Counts ((waitForState polls : SessionM σ ρ (Option WorkflowStatus)).perform session).1 := by
  induction polls generalizing session with
  | zero => simp [waitForState, Counts]
  | succ polls ih =>
      have polled := counts_refresh session
      rw [perform_waitForState_succ]
      generalize (refresh : SessionM σ ρ WorkflowStatus).perform session = outcome at polled ⊢
      rcases outcome with ⟨fault | status, after⟩
      · exact polled.failed
      · dsimp only
        cases after.run.current? with
        | none => simp [Counts]
        | some current =>
            dsimp only
            split
            · simp [Counts]
            · exact ih after.paused

theorem counts_cancelState (session : Session σ ρ) :
    Counts ((cancelState : SessionM σ ρ Unit).perform session).1 := by
  rw [perform_cancelState]
  cases session.running? with
  | none => simp [Counts]
  | some current => exact counts_saved _

theorem overflows_retry_iff : session.Overflows .retry ↔
    session.run.status.isTerminal = false ∧ ∃ current, session.run.current? = some current ∧
      (current.status = .failed ∨ current.status = .cancelled) ∧
      ¬current.retryNumber.toNat + 1 < UInt32.size := by
  constructor
  · intro overflows
    rw [Overflows, operate_retry, perform_retry] at overflows
    split at overflows
    next => cases overflows
    next active =>
      refine ⟨Bool.eq_false_iff.mpr active, ?_⟩
      cases last : session.run.current? with
      | none =>
          rw [last] at overflows
          cases overflows
      | some current =>
          refine ⟨current, rfl, ?_⟩
          rw [last] at overflows
          dsimp only at overflows
          split at overflows
          next stuck =>
            refine ⟨stuck, fun below => ?_⟩
            rw [if_pos below] at overflows
            cases known : session.run.workflow.state? current.stateName with
            | none =>
                rw [known] at overflows
                cases overflows
            | some definition =>
                rw [known] at overflows
                exact (counts_saved _).map _ overflows
          next => cases overflows
  · rintro ⟨active, current, last, stuck, above⟩
    rw [Overflows, retry_overflows active last stuck above]

/-! ## Runs to the end -/

/-- A cancelled state run at the end of the history has a number for its retry. -/
def Spare (session : Session σ ρ) : Prop :=
  ∀ current, session.run.current? = some current → current.status = .cancelled →
    current.retryNumber.toNat + 1 < UInt32.size

/-- The program has not stopped, and what goes on after an answer has numbers to spare. -/
def Runs : Except SessionFault α × Session σ ρ → Prop
  | (.ok _, after) => after.run.status.isTerminal = true ∨ after.Spare
  | (.error fault, _) => fault ≠ .overflow

omit [ContainerService σ] [RunRepository ρ] in
theorem Counts.runs {fault : SessionFault}
    (counts : Counts (.error fault : Except SessionFault α)) (after : Session σ ρ) :
    Runs ((.error fault, after) : Except SessionFault β × Session σ ρ) :=
  fun overflows => counts (congrArg _ overflows)

omit [ContainerService σ] [RunRepository ρ] in
theorem Runs.counts {outcome : Except SessionFault α × Session σ ρ} (runs : Runs outcome) :
    Counts outcome.1 := by
  obtain ⟨fault | _, after⟩ := outcome
  · intro overflows
    cases overflows
    exact runs rfl
  · simp [Counts]

omit [ContainerService σ] in
theorem runs_saved (spare : session.run.status.isTerminal = true ∨ session.Spare) :
    Runs session.saved := by
  rw [saved]
  cases (RunRepository.update session.touched.run session.repository).1 with
  | error fault => simp [Runs, Except.mapError]
  | ok => exact spare

omit [ContainerService σ] [RunRepository ρ] in
theorem spare_of_last (last : session.run.current? = some current)
    (other : current.status ≠ .cancelled) : session.Spare := by
  intro found same cancelled
  cases last.symm.trans same
  exact absurd cancelled other

theorem ofContainers_ne_cancelled (containers : List ContainerInstance) :
    WorkflowStatus.ofContainers containers ≠ .cancelled := by
  rcases WorkflowStatus.ofContainers_cases containers with same | same | same <;> simp [same]

omit [RunRepository ρ] in
theorem spare_launched (session : Session σ ρ) (stateName : String) (definition : StateDefinition)
    (retryNumber : UInt32) : (session.launched stateName definition retryNumber).Spare :=
  spare_of_last List.getLast?_concat (ofContainers_ne_cancelled _)

omit [RunRepository ρ] in
theorem spare_polled (going : current.status = .started) : (session.polled current).Spare := by
  have last : (session.polled current).run.current? =
      some { current with containers := session.awaited current }.refreshed := by
    rw [polled_run going]
    exact List.getLast?_concat
  refine spare_of_last last ?_
  rw [StateRun.refreshed, if_pos going]
  exact ofContainers_ne_cancelled _

theorem refresh_spare (spare : session.Spare) :
    ((refresh : SessionM σ ρ WorkflowStatus).perform session).2.Spare := by
  rw [perform_refresh]
  split
  · exact spare
  · cases found : session.running? with
    | none => exact spare
    | some current => exact spare_polled (running?_eq_some_iff.mp found).2

theorem cancelWorkflow_runs (session : Session σ ρ) :
    Runs ((cancelWorkflow : SessionM σ ρ Unit).perform session) := by
  rw [perform_cancelWorkflow]
  split
  · simp [Runs]
  · have stops := counts_cancelState session
    generalize (cancelState : SessionM σ ρ Unit).perform session = outcome at stops ⊢
    rcases outcome with ⟨fault | _, after⟩
    · exact stops.runs after
    · exact runs_saved (.inl rfl)

theorem start_runs (session : Session σ ρ) :
    Runs ((start : SessionM σ ρ Unit).perform session) := by
  rw [perform_start]
  split
  · cases session.run.workflow.state? session.run.workflow.startsAt with
    | none => simp [Runs]
    | some definition => exact runs_saved (.inr (spare_launched session _ definition 0))
  · simp [Runs, refusal]

theorem next_runs (session : Session σ ρ) :
    Runs ((next : SessionM σ ρ Unit).perform session) := by
  have polls := counts_refresh session
  rw [perform_next]
  generalize (refresh : SessionM σ ρ WorkflowStatus).perform session = outcome at polls ⊢
  rcases outcome with ⟨fault | _, after⟩
  · exact polls.runs after
  · dsimp only
    cases after.run.current? with
    | none => simp [Runs, refusal]
    | some current =>
        dsimp only
        split
        · cases current.definition.successor with
          | none => exact runs_saved (.inl rfl)
          | some stateName =>
              dsimp only
              cases after.run.workflow.state? stateName with
              | none => simp [Runs]
              | some definition => exact runs_saved (.inr (spare_launched after _ definition 0))
        · simp [Runs, refusal]

theorem retry_runs (last : session.run.current? = some current)
    (stuck : current.status = .failed ∨ current.status = .cancelled)
    (below : current.retryNumber.toNat + 1 < UInt32.size) :
    Runs ((retry : SessionM σ ρ Unit).perform session) := by
  rw [perform_retry]
  split
  · simp [Runs]
  · rw [last]
    dsimp only
    rw [if_pos stuck, if_pos below]
    cases session.run.workflow.state? current.stateName with
    | none => simp [Runs]
    | some definition => exact runs_saved (.inr (spare_launched session _ definition _))

theorem proceeded_runs (spare : session.Spare) : Runs session.proceeded := by
  have polls := counts_refresh session
  have polled := refresh_spare spare
  rw [proceeded]
  generalize (refresh : SessionM σ ρ WorkflowStatus).perform session = outcome at polls polled ⊢
  rcases outcome with ⟨fault | status, after⟩
  · exact polls.runs after
  · dsimp only at polled ⊢
    split
    · exact .inr polled
    · cases last : after.run.current? with
      | none => simp [Runs]
      | some current =>
          dsimp only
          cases stands : current.status with
          | completed => exact next_runs after
          | created | started => exact .inr polled
          | failed =>
              dsimp only
              split
              next => exact runs_saved (.inl rfl)
              next spared =>
                rw [current.retriesExhausted_iff] at spared
                have fewer := UInt32.not_le.mp (fun spent => spared ⟨stands, spent⟩)
                exact retry_runs last (.inl stands) (toNat_add_one_lt_size fewer)
          | cancelled =>
              dsimp only
              split
              next => exact runs_saved (.inl rfl)
              next => exact retry_runs last (.inr stands) (polled current last stands)

theorem rounds_runs (spare : session.run.status.isTerminal = true ∨ session.Spare) (count : Nat) :
    Counts ((rounds cancel count : SessionM σ ρ (Option WorkflowStatus)).perform session).1 := by
  induction count generalizing session with
  | zero => simp [perform_rounds_zero, Counts]
  | succ count ih =>
      rw [perform_rounds_succ]
      split
      next => simp [Counts]
      next active =>
        have goes : Runs ((round cancel : SessionM σ ρ Unit).perform session) := by
          rw [perform_round]
          split
          · exact cancelWorkflow_runs _
          · have asked : (session.asked cancel).Spare := spare.resolve_left active
            exact proceeded_runs asked
        generalize (round cancel : SessionM σ ρ Unit).perform session = outcome at goes ⊢
        rcases outcome with ⟨fault | _, after⟩
        · exact goes.counts.failed
        · exact ih goes

theorem runToEnd_counts (spare : session.Spare) (maxRounds : Nat) :
    ¬session.Overflows (.runToEnd cancel maxRounds) := by
  rw [Overflows, operate_runToEnd]
  refine Counts.map ?_ _
  rw [perform_runToEnd]
  split
  · have starts := start_runs { session with cancelAnswers := [] }
    generalize (start : SessionM σ ρ Unit).perform { session with cancelAnswers := [] } = outcome
      at starts ⊢
    rcases outcome with ⟨fault | _, after⟩
    · exact starts.counts.failed
    · exact rounds_runs starts maxRounds
  · have recounted : ({ session with cancelAnswers := [] } : Session σ ρ).Spare := spare
    exact rounds_runs (.inr recounted) maxRounds

theorem last_of_runToEnd_overflows {maxRounds : Nat}
    (overflows : session.Overflows (.runToEnd cancel maxRounds)) :
    ∃ current, session.run.current? = some current ∧ current.status = .cancelled ∧
      ¬current.retryNumber.toNat + 1 < UInt32.size := by
  by_contra spare
  refine runToEnd_counts (fun current last cancelled => ?_) maxRounds overflows
  by_contra above
  exact spare ⟨current, last, cancelled, above⟩

/-- Only a retry of such a state run stops the program, whatever operation comes to it. -/
theorem last_of_overflows {operation : Operation σ} (overflows : session.Overflows operation) :
    ∃ current, session.run.current? = some current ∧
      (current.status = .failed ∨ current.status = .cancelled) ∧
      ¬current.retryNumber.toNat + 1 < UInt32.size := by
  cases operation with
  | retry => exact (overflows_retry_iff.mp overflows).2
  | runToEnd cancel maxRounds =>
      obtain ⟨current, last, cancelled, above⟩ := last_of_runToEnd_overflows overflows
      exact ⟨current, last, .inr cancelled, above⟩
  | start =>
      rw [Overflows, operate_start] at overflows
      exact absurd overflows ((start_runs session).counts.map _)
  | next =>
      rw [Overflows, operate_next] at overflows
      exact absurd overflows ((next_runs session).counts.map _)
  | cancelState =>
      rw [Overflows, operate_cancelState] at overflows
      exact absurd overflows ((counts_cancelState session).map _)
  | cancelWorkflow =>
      rw [Overflows, operate_cancelWorkflow] at overflows
      exact absurd overflows ((cancelWorkflow_runs session).counts.map _)
  | refresh =>
      rw [Overflows, operate_refresh] at overflows
      exact absurd overflows ((counts_refresh session).map _)
  | waitForState polls =>
      rw [Overflows, operate_waitForState] at overflows
      exact absurd overflows ((counts_waitForState session polls).map _)

end Session

end PrivateComputation
