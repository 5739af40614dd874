import PrivateComputation.Proofs.Session.Operation

/-!
The loop of a run to the end, round by round. With fewer rounds to go the loop does the same and
stops earlier, so that a number of rounds stands for a moment of the loop.
-/

namespace PrivateComputation

variable {σ ρ : Type} [ContainerService σ] [RunRepository ρ]

namespace Session

variable {session after : Session σ ρ} {cancel : Nat → σ → Bool × σ}

theorem rounds_terminal (terminal : session.run.status.isTerminal = true)
    (cancel : Nat → σ → Bool × σ) (count : Nat) :
    (rounds cancel count : SessionM σ ρ (Option WorkflowStatus)).perform session =
      (.ok (some session.run.status), session) := by
  cases count with
  | zero => rw [perform_rounds_zero, if_pos terminal]
  | succ count => rw [perform_rounds_succ, if_pos terminal]

theorem rounds_step (active : session.run.status.isTerminal = false)
    (went : (round cancel : SessionM σ ρ Unit).perform session = (.ok (), after)) (count : Nat) :
    (rounds cancel (count + 1) : SessionM σ ρ (Option WorkflowStatus)).perform session =
      (rounds cancel count : SessionM σ ρ (Option WorkflowStatus)).perform after := by
  rw [perform_rounds_succ, if_neg (by simp [active]), went]

theorem rounds_end (active : session.run.status.isTerminal = false)
    (went : (round cancel : SessionM σ ρ Unit).perform session = (.ok (), after))
    (terminal : after.run.status.isTerminal = true) (count : Nat) :
    (rounds cancel (count + 1) : SessionM σ ρ (Option WorkflowStatus)).perform session =
      (.ok (some after.run.status), after) := by
  rw [rounds_step active went, rounds_terminal terminal]

theorem rounds_of_le {final : Session σ ρ} {status : WorkflowStatus} {count more : Nat}
    (answered : (rounds cancel count : SessionM σ ρ (Option WorkflowStatus)).perform session =
      (.ok (some status), final)) (order : count ≤ more) :
    (rounds cancel more : SessionM σ ρ (Option WorkflowStatus)).perform session =
      (.ok (some status), final) := by
  induction count generalizing session more with
  | zero =>
      rw [perform_rounds_zero] at answered
      split at answered
      next terminal =>
        rw [rounds_terminal terminal]
        exact answered
      next => cases answered
  | succ count ih =>
      obtain ⟨more, rfl⟩ := Nat.exists_eq_add_of_le' order
      by_cases terminal : session.run.status.isTerminal = true
      · rw [rounds_terminal terminal] at answered ⊢
        exact answered
      · have active := Bool.eq_false_iff.mpr terminal
        rcases outcome : (round cancel : SessionM σ ρ Unit).perform session with ⟨_ | _, after⟩
        · simp [perform_rounds_succ, terminal, outcome] at answered
        · rw [rounds_step active outcome] at answered
          rw [← Nat.add_assoc, rounds_step active outcome]
          exact ih answered (by omega)

def askedAfter (cancel : Nat → σ → Bool × σ) (count : Nat) (session : Session σ ρ) :
    Session σ ρ :=
  ((rounds cancel count : SessionM σ ρ (Option WorkflowStatus)).perform session).2.asked cancel

theorem askedAfter_succ (active : session.run.status.isTerminal = false)
    (went : (round cancel : SessionM σ ρ Unit).perform session = (.ok (), after)) (count : Nat) :
    session.askedAfter cancel (count + 1) = after.askedAfter cancel count := by
  rw [askedAfter, rounds_step active went]
  rfl

/-- The session of a run to the end when it is asked whether to cancel, after some rounds. -/
def questioned (cancel : Nat → σ → Bool × σ) (rounds : Nat) (session : Session σ ρ) :
    Session σ ρ :=
  ((runToEnd cancel rounds : SessionM σ ρ (Option WorkflowStatus)).perform session).2.asked cancel

/-! ## The questions -/

section Answers

variable (session : Session σ ρ)

theorem cancelAnswers_start :
    ((start : SessionM σ ρ Unit).perform session).2.cancelAnswers = session.cancelAnswers := by
  rw [perform_start]
  split
  · cases session.run.workflow.state? session.run.workflow.startsAt <;> rfl
  · rfl

theorem cancelAnswers_refresh :
    ((refresh : SessionM σ ρ WorkflowStatus).perform session).2.cancelAnswers =
      session.cancelAnswers := by
  rw [perform_refresh]
  split
  · rfl
  · cases session.running? <;> rfl

theorem cancelAnswers_next :
    ((next : SessionM σ ρ Unit).perform session).2.cancelAnswers = session.cancelAnswers := by
  rw [perform_next]
  have refreshes := cancelAnswers_refresh session
  generalize (refresh : SessionM σ ρ WorkflowStatus).perform session = outcome at refreshes ⊢
  rcases outcome with ⟨_ | _, after⟩
  · exact refreshes
  · rw [← refreshes]
    dsimp only
    cases after.run.current? with
    | none => rfl
    | some current =>
        dsimp only
        split
        · cases current.definition.successor with
          | none => rfl
          | some stateName =>
              dsimp only
              cases after.run.workflow.state? stateName <;> rfl
        · rfl

theorem cancelAnswers_cancelState :
    ((cancelState : SessionM σ ρ Unit).perform session).2.cancelAnswers =
      session.cancelAnswers := by
  rw [perform_cancelState]
  cases session.running? <;> rfl

theorem cancelAnswers_cancelWorkflow :
    ((cancelWorkflow : SessionM σ ρ Unit).perform session).2.cancelAnswers =
      session.cancelAnswers := by
  rw [perform_cancelWorkflow]
  split
  · rfl
  · have stops := cancelAnswers_cancelState session
    generalize (cancelState : SessionM σ ρ Unit).perform session = outcome at stops ⊢
    rcases outcome with ⟨_ | _, after⟩
    · exact stops
    · exact stops

theorem cancelAnswers_retry :
    ((retry : SessionM σ ρ Unit).perform session).2.cancelAnswers = session.cancelAnswers := by
  rw [perform_retry]
  split
  · rfl
  · cases session.run.current? with
    | none => rfl
    | some current =>
        dsimp only
        split
        · split
          · cases session.run.workflow.state? current.stateName <;> rfl
          · rfl
        · rfl

theorem cancelAnswers_round (cancel : Nat → σ → Bool × σ) :
    ((round cancel : SessionM σ ρ Unit).perform session).2.cancelAnswers =
      session.cancelAnswers ++ [session.cancelAnswer cancel] := by
  rw [perform_round]
  split
  · exact cancelAnswers_cancelWorkflow (session.asked cancel)
  · rw [proceeded]
    have refreshes := cancelAnswers_refresh (session.asked cancel)
    generalize (refresh : SessionM σ ρ WorkflowStatus).perform (session.asked cancel) = outcome
      at refreshes ⊢
    rcases outcome with ⟨_ | status, after⟩
    · exact refreshes
    · have same : after.cancelAnswers = session.cancelAnswers ++ [session.cancelAnswer cancel] :=
        refreshes
      rw [← same]
      dsimp only
      split
      · rfl
      · cases after.run.current? with
        | none => rfl
        | some current =>
            dsimp only
            cases current.status with
            | completed => exact cancelAnswers_next after
            | created | started => rfl
            | failed | cancelled =>
                dsimp only
                split
                · rfl
                · exact cancelAnswers_retry after

end Answers

/-! ## The start -/

theorem status_start {session after : Session σ ρ}
    (started : (start : SessionM σ ρ Unit).perform session = (.ok (), after)) :
    after.run.status = .started := by
  rw [perform_start] at started
  split at started
  · cases known : session.run.workflow.state? session.run.workflow.startsAt with
    | none => simp [known] at started
    | some definition =>
        rw [known] at started
        exact (congrArg (fun outcome => outcome.2.run.status) started).symm
  · simp at started

/-- A run to the end is its rounds, after a start if it has not started; unless the start fails. -/
theorem runToEnd_opens (active : session.run.status.isTerminal = false)
    (cancel : Nat → σ → Bool × σ) :
    (∃ fault failed, ∀ count,
        (runToEnd cancel count : SessionM σ ρ (Option WorkflowStatus)).perform session =
          (.error fault, failed)) ∨
      ∃ opened : Session σ ρ, opened.run.status.isTerminal = false ∧ opened.cancelAnswers = [] ∧
        ∀ count,
          (runToEnd cancel count : SessionM σ ρ (Option WorkflowStatus)).perform session =
            (rounds cancel count : SessionM σ ρ (Option WorkflowStatus)).perform opened := by
  by_cases created : session.run.status = .created
  · have answers := cancelAnswers_start { session with cancelAnswers := [] }
    cases outcome : (start : SessionM σ ρ Unit).perform { session with cancelAnswers := [] } with
    | mk result opened =>
        cases result with
        | error fault =>
            refine .inl ⟨fault, opened, ?_⟩
            intro count
            rw [perform_runToEnd, if_pos created, outcome]
        | ok done =>
            refine .inr ⟨opened, ?_, ?_, ?_⟩
            · rw [status_start outcome]
              rfl
            · rw [outcome] at answers
              exact answers
            · intro count
              rw [perform_runToEnd, if_pos created, outcome]
  · refine .inr ⟨{ session with cancelAnswers := [] }, active, rfl, ?_⟩
    intro count
    rw [perform_runToEnd, if_neg created]

theorem questioned_of_opens {session opened : Session σ ρ} {cancel : Nat → σ → Bool × σ}
    (opens : ∀ count,
      (runToEnd cancel count : SessionM σ ρ (Option WorkflowStatus)).perform session =
        (rounds cancel count : SessionM σ ρ (Option WorkflowStatus)).perform opened)
    (count : Nat) : session.questioned cancel count = opened.askedAfter cancel count := by
  rw [questioned, opens]
  rfl

theorem runToEnd_of_le {session final : Session σ ρ} {cancel : Nat → σ → Bool × σ}
    {status : WorkflowStatus} {count more : Nat}
    (answered : (runToEnd cancel count : SessionM σ ρ (Option WorkflowStatus)).perform session =
      (.ok (some status), final)) (order : count ≤ more) :
    (runToEnd cancel more : SessionM σ ρ (Option WorkflowStatus)).perform session =
      (.ok (some status), final) := by
  rw [perform_runToEnd] at answered ⊢
  split at answered
  next created =>
    rw [if_pos created]
    generalize (start : SessionM σ ρ Unit).perform { session with cancelAnswers := [] } = outcome
      at answered ⊢
    rcases outcome with ⟨_ | _, opened⟩
    · cases answered
    · exact rounds_of_le answered order
  next started =>
    rw [if_neg started]
    exact rounds_of_le answered order

theorem forall_questioned {session final : Session σ ρ} {cancel : Nat → σ → Bool × σ}
    {holds : Session σ ρ → Prop} {status : WorkflowStatus} {count : Nat}
    (answered : (runToEnd cancel count : SessionM σ ρ (Option WorkflowStatus)).perform session =
      (.ok (some status), final))
    (early : ∀ rounds ≤ count, holds (session.questioned cancel rounds)) (rounds : Nat) :
    holds (session.questioned cancel rounds) := by
  rcases Nat.le_total rounds count with before | after
  · exact early rounds before
  · have same : session.questioned cancel rounds = session.questioned cancel count := by
      rw [questioned, questioned, runToEnd_of_le answered after, answered]
    rw [same]
    exact early count (Nat.le_refl count)

end Session

end PrivateComputation
