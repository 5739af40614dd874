import PrivateComputation.Proofs.Session.Resume

/-!
Every operation that changes a run writes it down before it answers: unless a write fails, the run
stands in the repository afterwards as it is in the session.
-/

namespace PrivateComputation

variable {σ ρ α β : Type} [ContainerService σ] [RunRepository ρ]

namespace Session

def Saves (outcome : Except SessionFault α × Session σ ρ) : Prop :=
  (∀ fault, outcome.1 ≠ .error (.repository fault)) → outcome.2.Stored

omit [ContainerService σ] in
theorem Stored.saves {session : Session σ ρ} (stored : session.Stored)
    (answer : Except SessionFault α) : Saves (answer, session) :=
  fun _ => stored

omit [ContainerService σ] in
theorem Saves.map {outcome : Except SessionFault α × Session σ ρ} (saves : Saves outcome)
    (view : α → β) : Saves (outcome.1.map view, outcome.2) := by
  intro passed
  refine saves ?_
  intro fault failed
  exact passed fault (by dsimp only; rw [failed]; rfl)

omit [ContainerService σ] in
theorem Saves.failed {fault : SessionFault} {session : Session σ ρ}
    (saves : Saves ((.error fault, session) : Except SessionFault α × Session σ ρ)) :
    Saves ((.error fault, session) : Except SessionFault β × Session σ ρ) := by
  intro passed
  refine saves ?_
  rintro other ⟨⟩
  exact passed other rfl

theorem react_reload {session : Session σ ρ} (stored : session.Stored) (runner : String)
    (now : Instant) :
    session.react (.reload runner now) =
      ([], takeUp session.run runner { session.toSurroundings with now }) := by
  have found : RunRepository.read session.run.id session.repository = .ok session.run := stored
  simp only [react, load, found]

variable [LawfulRunRepository ρ]

omit [ContainerService σ] in
theorem stored_saved {session : Session σ ρ} (passed : session.saved.1 = .ok ()) :
    session.saved.2.Stored := by
  refine LawfulRunRepository.read_update session.touched.run session.repository ?_
  cases written : (RunRepository.update session.touched.run session.repository).1 with
  | ok => rfl
  | error fault =>
      rw [saved, written] at passed
      cases passed

omit [ContainerService σ] in
theorem saved_saves (session : Session σ ρ) : Saves session.saved := by
  intro passed
  refine stored_saved ?_
  cases written : (RunRepository.update session.touched.run session.repository).1 with
  | ok =>
      rw [saved, written]
      rfl
  | error fault =>
      refine absurd ?_ (passed fault)
      rw [saved, written]
      rfl

omit [ContainerService σ] in
theorem stored_begin {id environmentId runner : String} {workflow : Workflow}
    {surroundings : Surroundings σ ρ} {session : Session σ ρ}
    (begun : (begin id environmentId workflow runner surroundings).1 = .ok session) :
    session.Stored ∧ session = takeUp (.fresh id environmentId workflow surroundings.now.next)
      runner { surroundings with
        repository := session.repository
        now := surroundings.now.next } := by
  obtain ⟨created, rfl⟩ := begin_ok begun
  exact ⟨LawfulRunRepository.read_create _ _ created, rfl⟩

section Operations

variable {session : Session σ ρ}

theorem start_saves (stored : session.Stored) :
    Saves ((start : SessionM σ ρ Unit).perform session) := by
  rw [perform_start]
  split
  · cases session.run.workflow.state? session.run.workflow.startsAt with
    | none => exact stored.saves _
    | some definition => exact saved_saves _
  · exact stored.saves _

theorem refresh_saves (stored : session.Stored) :
    Saves ((refresh : SessionM σ ρ WorkflowStatus).perform session) := by
  rw [perform_refresh]
  split
  · exact stored.saves _
  · cases session.running? with
    | none => exact stored.saves _
    | some current => exact (saved_saves (session.polled current)).map _

theorem next_saves (stored : session.Stored) :
    Saves ((next : SessionM σ ρ Unit).perform session) := by
  rw [perform_next]
  have refreshes := refresh_saves stored
  generalize (refresh : SessionM σ ρ WorkflowStatus).perform session = outcome at refreshes ⊢
  rcases outcome with ⟨fault | _, after⟩
  · exact refreshes.failed
  · dsimp only
    have kept : after.Stored := refreshes (by simp)
    cases after.run.current? with
    | none => exact kept.saves _
    | some current =>
        dsimp only
        split
        · cases current.definition.successor with
          | none => exact saved_saves _
          | some stateName =>
              dsimp only
              cases after.run.workflow.state? stateName with
              | none => exact kept.saves _
              | some definition => exact saved_saves _
        · exact kept.saves _

theorem cancelState_saves (stored : session.Stored) :
    Saves ((cancelState : SessionM σ ρ Unit).perform session) := by
  rw [perform_cancelState]
  cases session.running? with
  | none => exact stored.saves _
  | some current => exact saved_saves _

theorem cancelWorkflow_saves (stored : session.Stored) :
    Saves ((cancelWorkflow : SessionM σ ρ Unit).perform session) := by
  rw [perform_cancelWorkflow]
  split
  · exact stored.saves _
  · have stops := cancelState_saves stored
    generalize (cancelState : SessionM σ ρ Unit).perform session = outcome at stops ⊢
    rcases outcome with ⟨fault | _, after⟩
    · exact stops
    · exact saved_saves _

theorem retry_saves (stored : session.Stored) :
    Saves ((retry : SessionM σ ρ Unit).perform session) := by
  rw [perform_retry]
  split
  · exact stored.saves _
  · cases session.run.current? with
    | none => exact stored.saves _
    | some current =>
        dsimp only
        split
        · split
          · cases session.run.workflow.state? current.stateName with
            | none => exact stored.saves _
            | some definition => exact saved_saves _
          · exact stored.saves _
        · exact stored.saves _

theorem waitForState_saves (stored : session.Stored) (polls : Nat) :
    Saves ((waitForState polls : SessionM σ ρ (Option WorkflowStatus)).perform session) := by
  induction polls generalizing session with
  | zero => exact stored.saves _
  | succ polls ih =>
      rw [perform_waitForState_succ]
      have refreshes := refresh_saves stored
      generalize (refresh : SessionM σ ρ WorkflowStatus).perform session = outcome at refreshes ⊢
      rcases outcome with ⟨fault | status, after⟩
      · exact refreshes.failed
      · dsimp only
        have kept : after.Stored := refreshes (by simp)
        cases after.run.current? with
        | none => exact kept.saves _
        | some current =>
            dsimp only
            split
            · exact kept.saves _
            · exact ih kept

theorem round_saves (stored : session.Stored) (cancel : Nat → σ → Bool × σ) :
    Saves ((round cancel : SessionM σ ρ Unit).perform session) := by
  have asked : (session.asked cancel).Stored := stored
  rw [perform_round]
  split
  · exact cancelWorkflow_saves asked
  · rw [proceeded]
    have refreshes := refresh_saves asked
    generalize (refresh : SessionM σ ρ WorkflowStatus).perform (session.asked cancel) = outcome
      at refreshes ⊢
    rcases outcome with ⟨fault | status, after⟩
    · exact refreshes.failed
    · dsimp only
      have kept : after.Stored := refreshes (by simp)
      split
      · exact kept.saves _
      · cases after.run.current? with
        | none => exact kept.saves _
        | some current =>
            dsimp only
            cases current.status with
            | completed => exact next_saves kept
            | created | started => exact (show after.paused.Stored from kept).saves _
            | failed | cancelled =>
                dsimp only
                split
                · exact saved_saves _
                · exact retry_saves kept

theorem rounds_saves (stored : session.Stored) (cancel : Nat → σ → Bool × σ) (count : Nat) :
    Saves ((rounds cancel count : SessionM σ ρ (Option WorkflowStatus)).perform session) := by
  induction count generalizing session with
  | zero => exact stored.saves _
  | succ count ih =>
      rw [perform_rounds_succ]
      split
      · exact stored.saves _
      · have goes := round_saves stored cancel
        generalize (round cancel : SessionM σ ρ Unit).perform session = outcome at goes ⊢
        rcases outcome with ⟨fault | _, after⟩
        · exact goes.failed
        · exact ih (goes (by simp))

theorem runToEnd_saves (stored : session.Stored) (cancel : Nat → σ → Bool × σ)
    (maxRounds : Nat) :
    Saves ((runToEnd cancel maxRounds : SessionM σ ρ (Option WorkflowStatus)).perform
      session) := by
  have recounted : ({ session with cancelAnswers := [] } : Session σ ρ).Stored := stored
  rw [perform_runToEnd]
  split
  · have starts := start_saves recounted
    generalize (start : SessionM σ ρ Unit).perform { session with cancelAnswers := [] } = outcome
      at starts ⊢
    rcases outcome with ⟨fault | _, after⟩
    · exact starts.failed
    · exact rounds_saves (starts (by simp)) cancel maxRounds
  · exact rounds_saves recounted cancel maxRounds

theorem operate_saves (stored : session.Stored) (operation : Operation σ) :
    Saves (session.operate operation) := by
  cases operation with
  | start => exact operate_start session ▸ (start_saves stored).map _
  | next => exact operate_next session ▸ (next_saves stored).map _
  | retry => exact operate_retry session ▸ (retry_saves stored).map _
  | cancelState => exact operate_cancelState session ▸ (cancelState_saves stored).map _
  | cancelWorkflow => exact operate_cancelWorkflow session ▸ (cancelWorkflow_saves stored).map _
  | refresh => exact operate_refresh session ▸ (refresh_saves stored).map _
  | waitForState polls =>
      exact operate_waitForState session polls ▸ (waitForState_saves stored polls).map _
  | runToEnd cancel maxRounds =>
      exact operate_runToEnd session cancel maxRounds ▸
        (runToEnd_saves stored cancel maxRounds).map _

end Operations

end Session

end PrivateComputation
