import PrivateComputation.Proofs.Session.Grounded
import PrivateComputation.Proofs.Session.Overflow
import PrivateComputation.Proofs.Session.Passing

/-!
When an operation goes through, when it is refused and when it is ignored, for every run of an
accepted workflow whose writes go well. A call that is refused or ignored changes nothing, except
that `next` has polled by then.
-/

namespace PrivateComputation

variable {σ ρ : Type}

namespace Session

/-- A run of an accepted workflow in a repository that goes on taking it. -/
structure Working [ContainerService σ] [RunRepository ρ] [DurableRunRepository ρ]
    (session : Session σ ρ) : Prop extends Grounded session where
  held : session.Held

theorem Working.follow [ContainerService σ] [RunRepository ρ] [DurableRunRepository ρ]
    {session : Session σ ρ} (working : session.Working) (sound : session.Sound)
    (events : List (Event σ)) : (session.follow events).2.Working := by
  induction events generalizing session with
  | nil => exact working
  | cons event events ih =>
      obtain ⟨after, grounded⟩ := sound.grounded working.accepted [event]
      refine ih ⟨grounded, ?_⟩ after
      cases event with
      | operation operation =>
          exact working.held.moves (operate_moves (within_any operation) session)
      | meanwhile change => exact working.held
      | reload runner now =>
          simp only [load]
          cases found : RunRepository.read session.run.id session.repository with
          | error fault => exact working.held
          | ok stored =>
              -- The session may stand at another run now, but under the same id.
              have same := (sound.stored stored found).1.id
              exact (same.symm ▸ working.held :
                DurableRunRepository.Holds session.repository stored.id)

/-! ## What calls come to -/

section Calls

variable [ContainerService σ] [RunRepository ρ]

def Succeeds (session : Session σ ρ) (operation : Operation σ) : Prop :=
  (session.operate operation).1 = .ok .done

/-- A state was dispatched: its containers, and no others, were launched, and its state run stands
behind the earlier ones. -/
def Dispatches (before : Session (Recorded σ) ρ) (stateName : String) (retryNumber : UInt32)
    (after : Session (Recorded σ) ρ) : Prop :=
  ∃ definition stateRun, before.run.workflow.state? stateName = some definition ∧
    stateRun.stateName = stateName ∧ stateRun.definition = definition ∧
    stateRun.retryNumber = retryNumber ∧
    after.run.history = before.run.history ++ [stateRun] ∧
    after.service.requests = before.service.requests ++
      [.create definition.containerDefinition (definition.commands before.runner)
        definition.timeout]

end Calls

/-! ## The rules of the operations -/

section Rules

variable [ContainerService σ] [RunRepository ρ] (session : Session (Recorded σ) ρ)

end Rules

section Working

variable [ContainerService σ] [RunRepository ρ] [DurableRunRepository ρ]
  {session : Session (Recorded σ) ρ}

theorem Working.next_completes (working : session.Working) {current : StateRun}
    (ready : session.Ready current) (final : current.definition.successor = none) :
    session.operate .next =
      (.ok .done, ((session.operate .refresh).2.withStatus .completed).saved.2) := by
  rw [operate_next, working.held.next_completes ready final]
  rfl

theorem Working.next_advances (working : session.Working) {current : StateRun}
    (ready : session.Ready current) {following : String}
    (follows : current.definition.successor = some following) :
    ∃ definition,
      (session.operate .refresh).2.run.workflow.state? following = some definition ∧
        session.operate .next =
          (.ok .done, ((session.operate .refresh).2.launched following definition 0).saved.2) := by
  have polled := working.toGrounded.moves (operate_moves (within_any .refresh) session)
  obtain ⟨definition, known⟩ := polled.state?_successor ready.last follows
  refine ⟨definition, known, ?_⟩
  rw [operate_next, working.held.next_advances ready follows known]
  rfl

end Working

end Session

def Event.failing : List (Event (Recorded ScriptedContainers)) :=
  [.meanwhile (fun recorded => { recorded with service := recorded.service.setDefault .failed }),
    .operation .start]

end PrivateComputation
