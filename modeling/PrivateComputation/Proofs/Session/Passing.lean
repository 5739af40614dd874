import PrivateComputation.Proofs.Session.Resume

/-!
What the operations come to in a repository that goes on taking the run: every call that is not
refused for the status of the run goes through.
-/

namespace PrivateComputation

variable {σ ρ : Type}

namespace Session

variable [ContainerService σ] [RunRepository ρ] [DurableRunRepository ρ]
  {before after session : Session σ ρ} {current : StateRun} {definition : StateDefinition}

def Held (session : Session σ ρ) : Prop :=
  DurableRunRepository.Holds session.repository session.run.id

namespace Held

theorem move {world : σ → σ → Prop} (held : before.Held) (move : Move world before after) :
    after.Held := by
  rcases move.repository with unchanged | rfl
  · rw [Held, unchanged, move.id]
    exact held
  · exact (saved_of_holds held).2.1

theorem moves {world : σ → σ → Prop} (held : before.Held) (moves : Moves world before after) :
    after.Held := by
  induction moves with
  | refl => exact held
  | tail _ move ih => exact ih.move move

theorem launched (held : session.Held) (stateName : String) (definition : StateDefinition)
    (retryNumber : UInt32) : (session.launched stateName definition retryNumber).Held :=
  held

theorem polled (held : session.Held) (current : StateRun) : (session.polled current).Held :=
  held

theorem stopped (held : session.Held) (current : StateRun) : (session.stopped current).Held :=
  held

omit [ContainerService σ] in
theorem withStatus (held : session.Held) (status : WorkflowStatus) :
    (session.withStatus status).Held :=
  held

omit [ContainerService σ] in
theorem saved (held : session.Held) : session.saved = (.ok (), session.saved.2) :=
  Prod.ext (saved_of_holds held).1 rfl

theorem start (held : session.Held) (created : session.run.status = .created)
    (known : session.run.workflow.state? session.run.workflow.startsAt = some definition) :
    (Session.start : SessionM σ ρ Unit).perform session =
      (.ok (), ((session.launched session.run.workflow.startsAt definition 0).withStatus
        .started).saved.2) := by
  rw [perform_start, if_pos created, known]
  exact ((held.launched _ definition 0).withStatus .started).saved

theorem refresh (held : session.Held) :
    (Session.refresh : SessionM σ ρ WorkflowStatus).perform session =
        (.ok session.run.status, (session.operate .refresh).2) ∧
      (session.operate .refresh).2.Held := by
  refine ⟨Prod.ext ?_ (congrArg Prod.snd (operate_refresh session)).symm,
    held.moves (operate_moves (within_any _) session)⟩
  rw [perform_refresh]
  split
  · rfl
  · cases session.running? with
    | none => rfl
    | some current =>
        dsimp only
        rw [(held.polled current).saved]
        rfl

theorem cancelState (held : session.Held) :
    (Session.cancelState : SessionM σ ρ Unit).perform session =
        (.ok (), (session.operate .cancelState).2) ∧
      (session.operate .cancelState).2.Held := by
  refine ⟨Prod.ext ?_ (congrArg Prod.snd (operate_cancelState session)).symm,
    held.moves (operate_moves (within_any _) session)⟩
  rw [perform_cancelState]
  cases session.running? with
  | none => rfl
  | some current =>
      dsimp only
      rw [(held.stopped current).saved]

theorem cancelWorkflow (held : session.Held) (active : session.run.status.isTerminal = false) :
    (Session.cancelWorkflow : SessionM σ ρ Unit).perform session =
      (.ok (), ((session.operate .cancelState).2.withStatus .cancelled).saved.2) := by
  obtain ⟨stops, rests⟩ := held.cancelState
  rw [perform_cancelWorkflow, if_neg (by simp [active]), stops]
  exact (rests.withStatus .cancelled).saved

theorem retry (held : session.Held) (active : session.run.status.isTerminal = false)
    (last : session.run.current? = some current)
    (stuck : current.status = .failed ∨ current.status = .cancelled)
    (below : current.retryNumber.toNat + 1 < UInt32.size)
    (known : session.run.workflow.state? current.stateName = some definition) :
    (Session.retry : SessionM σ ρ Unit).perform session =
      (.ok (), (session.launched current.stateName definition
        (current.retryNumber + 1)).saved.2) := by
  rw [perform_retry, if_neg (by simp [active]), last]
  dsimp only
  rw [if_pos stuck, if_pos below, known]
  exact (held.launched _ definition _).saved

end Held

structure Ready (session : Session σ ρ) (current : StateRun) : Prop where
  last : (session.operate .refresh).2.run.current? = some current
  started : (session.operate .refresh).2.run.status = .started
  completed : current.status = .completed

omit [DurableRunRepository ρ] in
theorem refresh_of_completed (last : session.run.current? = some current)
    (completed : current.status = .completed) : (session.operate .refresh).2 = session := by
  have rests : session.running? = none := by
    rw [running?_eq_none_iff]
    intro other same
    cases last.symm.trans same
    simp [completed]
  rw [operate_refresh, perform_refresh, rests]
  split <;> rfl

omit [DurableRunRepository ρ] in
theorem ready_of_completed (last : session.run.current? = some current)
    (started : session.run.status = .started) (completed : current.status = .completed) :
    session.Ready current := by
  have still := refresh_of_completed last completed
  constructor
  · rw [still, last]
  · rw [still, started]
  · exact completed

namespace Held

theorem next_completes (held : session.Held) (ready : session.Ready current)
    (final : current.definition.successor = none) :
    (next : SessionM σ ρ Unit).perform session =
      (.ok (), ((session.operate .refresh).2.withStatus .completed).saved.2) := by
  obtain ⟨refreshes, polled⟩ := held.refresh
  rw [perform_next, refreshes]
  dsimp only
  rw [ready.last]
  dsimp only
  rw [if_pos ⟨ready.started, ready.completed⟩, final]
  exact (polled.withStatus .completed).saved

theorem next_advances (held : session.Held) (ready : session.Ready current) {following : String}
    (follows : current.definition.successor = some following)
    (known : (session.operate .refresh).2.run.workflow.state? following = some definition) :
    (next : SessionM σ ρ Unit).perform session =
      (.ok (), ((session.operate .refresh).2.launched following definition 0).saved.2) := by
  obtain ⟨refreshes, polled⟩ := held.refresh
  rw [perform_next, refreshes]
  dsimp only
  rw [ready.last]
  dsimp only
  rw [if_pos ⟨ready.started, ready.completed⟩, follows]
  dsimp only
  rw [known]
  exact (polled.launched following definition 0).saved

end Held

end Session

end PrivateComputation
