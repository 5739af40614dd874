import Mathlib.Logic.Relation
import PrivateComputation.Proofs.Session.Operation

/-!
The moves that sessions consist of. Every operation is a sequence of moves, so what each move keeps
every operation keeps, whether it succeeds or fails.
-/

namespace PrivateComputation

variable {σ ρ : Type} [ContainerService σ] [RunRepository ρ]

namespace Session

/-- A single change of a session, with what has to hold for it. What the question whether to cancel
does to the service is bounded by a relation. -/
inductive Move (world : σ → σ → Prop) : Session σ ρ → Session σ ρ → Prop where
  | launchFirst {session : Session σ ρ} {definition : StateDefinition}
      (unstarted : session.run.status = .created)
      (known : session.run.workflow.state? session.run.workflow.startsAt = some definition) :
      Move world session
        ((session.launched session.run.workflow.startsAt definition 0).withStatus .started)
  | launchNext {session : Session σ ρ} {current : StateRun} {stateName : String}
      {definition : StateDefinition}
      (started : session.run.status = .started)
      (last : session.run.current? = some current)
      (completed : current.status = .completed)
      (follows : current.definition.successor = some stateName)
      (known : session.run.workflow.state? stateName = some definition) :
      Move world session (session.launched stateName definition 0)
  | launchAgain {session : Session σ ρ} {current : StateRun} {definition : StateDefinition}
      (active : session.run.status.isTerminal = false)
      (last : session.run.current? = some current)
      (stuck : current.status = .failed ∨ current.status = .cancelled)
      (below : current.retryNumber.toNat + 1 < UInt32.size)
      (known : session.run.workflow.state? current.stateName = some definition) :
      Move world session
        (session.launched current.stateName definition (current.retryNumber + 1))
  | complete {session : Session σ ρ} {current : StateRun}
      (started : session.run.status = .started)
      (last : session.run.current? = some current)
      (completed : current.status = .completed)
      (final : current.definition.successor = none) :
      Move world session (session.withStatus .completed)
  | poll {session : Session σ ρ} {current : StateRun}
      (active : session.run.status.isTerminal = false)
      (last : session.run.current? = some current)
      (going : current.status = .started) :
      Move world session (session.polled current)
  | stop {session : Session σ ρ} {current : StateRun}
      (last : session.run.current? = some current)
      (going : current.status = .started) :
      Move world session (session.stopped current)
  | cancel {session : Session σ ρ}
      (active : session.run.status.isTerminal = false)
      (rests : ∀ current, session.run.current? = some current → current.status ≠ .started) :
      Move world session (session.withStatus .cancelled)
  | giveUp {session : Session σ ρ} {current : StateRun}
      (active : session.run.status.isTerminal = false)
      (last : session.run.current? = some current)
      (exhausted : current.retriesExhausted = true) :
      Move world session (session.withStatus .failed)
  | save {session : Session σ ρ} : Move world session session.saved.2
  | pause {session : Session σ ρ} : Move world session session.paused
  | interfere {session : Session σ ρ} {service : σ} (allowed : world session.service service) :
      Move world session { session with service }
  | recount {session : Session σ ρ} {answers : List Bool} :
      Move world session { session with cancelAnswers := answers }

abbrev Moves (world : σ → σ → Prop) : Session σ ρ → Session σ ρ → Prop :=
  Relation.ReflTransGen (Move world)

/-! ## Operations are sequences of moves -/

section Operations

variable (world : σ → σ → Prop) (session : Session σ ρ)

theorem start_moves :
    Moves world session ((start : SessionM σ ρ Unit).perform session).2 := by
  rw [perform_start]
  split
  next unstarted =>
    cases known : session.run.workflow.state? session.run.workflow.startsAt with
    | none => exact .refl
    | some definition =>
        exact (Relation.ReflTransGen.single (.launchFirst unstarted known)).tail .save
  next => exact .refl

theorem refresh_moves :
    Moves world session ((refresh : SessionM σ ρ WorkflowStatus).perform session).2 := by
  rw [perform_refresh]
  split
  next => exact .refl
  next active =>
    cases found : session.running? with
    | none => exact .refl
    | some current =>
        obtain ⟨last, going⟩ := running?_eq_some_iff.mp found
        have polls : Moves world session (session.polled current) :=
          .single (.poll (Bool.eq_false_iff.mpr active) last going)
        exact polls.tail .save

theorem next_moves :
    Moves world session ((next : SessionM σ ρ Unit).perform session).2 := by
  rw [perform_next]
  have polls := refresh_moves world session
  generalize (refresh : SessionM σ ρ WorkflowStatus).perform session = outcome at polls ⊢
  rcases outcome with ⟨_ | _, after⟩
  · exact polls
  · dsimp only at polls ⊢
    cases last : after.run.current? with
    | none => exact polls
    | some current =>
        dsimp only
        split
        next finished =>
          obtain ⟨started, completed⟩ := finished
          cases follows : current.definition.successor with
          | none => exact (polls.tail (.complete started last completed follows)).tail .save
          | some stateName =>
              dsimp only
              cases known : after.run.workflow.state? stateName with
              | none => exact polls
              | some definition =>
                  exact (polls.tail (.launchNext started last completed follows known)).tail .save
        next => exact polls

theorem cancelState_moves :
    Moves world session ((cancelState : SessionM σ ρ Unit).perform session).2 := by
  rw [perform_cancelState]
  cases found : session.running? with
  | none => exact .refl
  | some current =>
      obtain ⟨last, going⟩ := running?_eq_some_iff.mp found
      exact (Relation.ReflTransGen.single (.stop last going)).tail .save

theorem running?_cancelState :
    ((cancelState : SessionM σ ρ Unit).perform session).2.running? = none := by
  rw [perform_cancelState]
  cases found : session.running? with
  | none => exact found
  | some current =>
      apply running?_eq_none_iff.mpr
      intro other last
      have cancelled : other = { current with status := .cancelled } := by
        simpa [saved, touched, stopped, WorkflowRun.current?, WorkflowRun.withCurrent]
          using last.symm
      simp [cancelled]

theorem status_cancelState :
    ((cancelState : SessionM σ ρ Unit).perform session).2.run.status = session.run.status := by
  rw [perform_cancelState]
  cases session.running? <;> rfl

theorem cancelWorkflow_moves :
    Moves world session ((cancelWorkflow : SessionM σ ρ Unit).perform session).2 := by
  rw [perform_cancelWorkflow]
  split
  next => exact .refl
  next active =>
    have stops := cancelState_moves world session
    have rests := running?_cancelState session
    have same := status_cancelState session
    generalize (cancelState : SessionM σ ρ Unit).perform session = outcome at stops rests same ⊢
    rcases outcome with ⟨_ | _, after⟩
    · exact stops
    · dsimp only at stops rests same
      have stillActive : after.run.status.isTerminal = false := by
        rw [same]
        exact Bool.eq_false_iff.mpr active
      exact (stops.tail (.cancel stillActive (running?_eq_none_iff.mp rests))).tail .save

theorem retry_moves :
    Moves world session ((retry : SessionM σ ρ Unit).perform session).2 := by
  rw [perform_retry]
  split
  next => exact .refl
  next active =>
    cases last : session.run.current? with
    | none => exact .refl
    | some current =>
        dsimp only
        split
        next stuck =>
          split
          next below =>
            cases known : session.run.workflow.state? current.stateName with
            | none => exact .refl
            | some definition =>
                have launches : Moves world session (session.launched current.stateName definition
                    (current.retryNumber + 1)) :=
                  .single (.launchAgain (Bool.eq_false_iff.mpr active) last stuck below known)
                exact launches.tail .save
          next => exact .refl
        next => exact .refl

theorem waitForState_moves (polls : Nat) :
    Moves world session
      ((waitForState polls : SessionM σ ρ (Option WorkflowStatus)).perform session).2 := by
  induction polls generalizing session with
  | zero => exact .refl
  | succ polls ih =>
      rw [perform_waitForState_succ]
      have refreshes := refresh_moves world session
      generalize (refresh : SessionM σ ρ WorkflowStatus).perform session = outcome
        at refreshes ⊢
      rcases outcome with ⟨_ | _, after⟩
      · exact refreshes
      · dsimp only at refreshes ⊢
        cases after.run.current? with
        | none => exact refreshes
        | some current =>
            dsimp only
            split
            · exact refreshes
            · exact (refreshes.tail .pause).trans (ih after.paused)

theorem answer_refresh {status : WorkflowStatus}
    (answered : ((refresh : SessionM σ ρ WorkflowStatus).perform session).1 = .ok status) :
    status = ((refresh : SessionM σ ρ WorkflowStatus).perform session).2.run.status := by
  rw [perform_refresh] at answered ⊢
  by_cases terminal : session.run.status.isTerminal = true
  · rw [if_pos terminal] at answered ⊢
    cases answered
    rfl
  · rw [if_neg terminal] at answered ⊢
    cases found : session.running? with
    | none =>
        rw [found] at answered
        cases answered
        rfl
    | some current =>
        rw [found] at answered
        dsimp only at answered ⊢
        cases outcome : (session.polled current).saved.1 with
        | error fault => simp [outcome, Except.map] at answered
        | ok value =>
            have same : session.run.status = status := by
              simpa [outcome, Except.map] using answered
            exact same.symm

theorem round_moves {cancel : Nat → σ → Bool × σ}
    (within : ∀ count service, world service (cancel count service).2) :
    Moves world session ((round cancel : SessionM σ ρ Unit).perform session).2 := by
  have asks : Moves world session (session.asked cancel) :=
    (Relation.ReflTransGen.single (.interfere (within _ _))).tail .recount
  rw [perform_round]
  split
  · exact asks.trans (cancelWorkflow_moves world _)
  · rw [proceeded]
    have refreshes := refresh_moves world (session.asked cancel)
    have answers := @answer_refresh _ _ _ _ (session.asked cancel)
    generalize (refresh : SessionM σ ρ WorkflowStatus).perform (session.asked cancel) = outcome
      at refreshes answers ⊢
    rcases outcome with ⟨_ | status, after⟩
    · exact asks.trans refreshes
    · dsimp only at refreshes answers ⊢
      have same : status = after.run.status := answers rfl
      split
      next => exact asks.trans refreshes
      next active =>
        rw [same] at active
        cases last : after.run.current? with
        | none => exact asks.trans refreshes
        | some current =>
            dsimp only
            have soFar := asks.trans refreshes
            cases current.status with
            | completed => exact soFar.trans (next_moves world after)
            | created | started => exact soFar.tail .pause
            | failed | cancelled =>
                dsimp only
                split
                next exhausted =>
                  have gives : Move world after (after.withStatus .failed) :=
                    .giveUp (Bool.eq_false_iff.mpr active) last exhausted
                  exact (soFar.tail gives).tail .save
                next => exact soFar.trans (retry_moves world after)

theorem rounds_moves {cancel : Nat → σ → Bool × σ}
    (within : ∀ count service, world service (cancel count service).2) (count : Nat) :
    Moves world session
      ((rounds cancel count : SessionM σ ρ (Option WorkflowStatus)).perform session).2 := by
  induction count generalizing session with
  | zero => exact .refl
  | succ count ih =>
      rw [perform_rounds_succ]
      split
      · exact .refl
      · have goes := round_moves world session within
        generalize (round cancel : SessionM σ ρ Unit).perform session = outcome at goes ⊢
        rcases outcome with ⟨_ | _, after⟩
        · exact goes
        · exact goes.trans (ih after)

theorem runToEnd_moves {cancel : Nat → σ → Bool × σ}
    (within : ∀ count service, world service (cancel count service).2) (maxRounds : Nat) :
    Moves world session
      ((runToEnd cancel maxRounds : SessionM σ ρ (Option WorkflowStatus)).perform session).2 := by
  have recounts : Moves world session { session with cancelAnswers := [] } := .single .recount
  rw [perform_runToEnd]
  split
  · have starts := start_moves world { session with cancelAnswers := [] }
    generalize (start : SessionM σ ρ Unit).perform { session with cancelAnswers := [] } = outcome
      at starts ⊢
    rcases outcome with ⟨_ | _, after⟩
    · exact recounts.trans starts
    · exact (recounts.trans starts).trans (rounds_moves world after within maxRounds)
  · exact recounts.trans (rounds_moves world _ within maxRounds)

end Operations

end Session

/-- What an operation does to the service between its own calls stays within a relation. -/
def Operation.Within (world : σ → σ → Prop) : Operation σ → Prop
  | .runToEnd cancel _ => ∀ count service, world service (cancel count service).2
  | _ => True

namespace Session

/-- Every operation is a sequence of moves. -/
theorem operate_moves {world : σ → σ → Prop} {operation : Operation σ}
    (within : operation.Within world) (session : Session σ ρ) :
    Moves world session (session.operate operation).2 := by
  cases operation with
  | start => exact operate_start session ▸ start_moves world session
  | next => exact operate_next session ▸ next_moves world session
  | retry => exact operate_retry session ▸ retry_moves world session
  | cancelState => exact operate_cancelState session ▸ cancelState_moves world session
  | cancelWorkflow => exact operate_cancelWorkflow session ▸ cancelWorkflow_moves world session
  | refresh => exact operate_refresh session ▸ refresh_moves world session
  | waitForState polls =>
      exact operate_waitForState session polls ▸ waitForState_moves world session polls
  | runToEnd cancel maxRounds =>
      exact operate_runToEnd session cancel maxRounds ▸
        runToEnd_moves world session within maxRounds

end Session

end PrivateComputation
