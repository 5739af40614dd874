import Mathlib.Data.List.Chain
import PrivateComputation.Proofs.Session.Move

/-!
What holds of a run between any two moves: its history follows the workflow, and its status agrees
with its last state run.
-/

namespace PrivateComputation

variable {σ ρ : Type}

structure StateRun.SameRun (before after : StateRun) : Prop where
  stateName : after.stateName = before.stateName
  definition : after.definition = before.definition
  retryNumber : after.retryNumber = before.retryNumber
  startedAt : after.startedAt = before.startedAt

theorem StateRun.SameRun.trans {first second third : StateRun} (left : first.SameRun second)
    (right : second.SameRun third) : first.SameRun third :=
  ⟨right.stateName.trans left.stateName, right.definition.trans left.definition,
    right.retryNumber.trans left.retryNumber, right.startedAt.trans left.startedAt⟩

/-- A state run that may stand behind another; retry numbers are counted in 32 bits. -/
def StateRun.Linked (earlier later : StateRun) : Prop :=
  (later.stateName = earlier.stateName ∧ later.retryNumber = earlier.retryNumber + 1 ∧
      (earlier.status = .failed ∨ earlier.status = .cancelled)) ∨
    (earlier.definition.successor = some later.stateName ∧ later.retryNumber = 0 ∧
      earlier.status = .completed)

theorem StateRun.Linked.terminal {earlier later : StateRun} (linked : earlier.Linked later) :
    earlier.status.isTerminal = true := by
  rcases linked with ⟨_, _, failed | cancelled⟩ | ⟨_, _, completed⟩
  · rw [failed]
    rfl
  · rw [cancelled]
    rfl
  · rw [completed]
    rfl

/-- What holds of the workflow, the status and the history of a run between any two moves. -/
structure CoherentHistory (workflow : Workflow) (status : WorkflowStatus)
    (history : List StateRun) : Prop where
  begins : ∀ first, history.head? = some first →
    first.stateName = workflow.startsAt ∧ first.retryNumber = 0
  linked : history.IsChain StateRun.Linked
  defined : ∀ stateRun ∈ history, workflow.state? stateRun.stateName = some stateRun.definition
  numbered : ∀ (index : Nat) (stateRun : StateRun), history[index]? = some stateRun →
    stateRun.retryNumber.toNat ≤ index
  unstarted : status = .created → history = []
  completed : status = .completed →
    ∃ last, history.getLast? = some last ∧ last.status = .completed ∧
      last.definition.successor = none
  failed : status = .failed →
    ∃ last, history.getLast? = some last ∧ last.retriesExhausted = true
  resting : status.isTerminal = true →
    ∀ last, history.getLast? = some last → last.status ≠ .started

namespace CoherentHistory

variable {workflow : Workflow} {status : WorkflowStatus} {history : List StateRun}

theorem fresh (workflow : Workflow) : CoherentHistory workflow .created [] where
  begins := by simp
  linked := .nil
  defined := by simp
  numbered := by simp
  unstarted := fun _ => rfl
  completed := by simp
  failed := by simp
  resting := by simp

theorem started_of_running (coherent : CoherentHistory workflow status history) {last : StateRun}
    (found : history.getLast? = some last) (going : last.status = .started) :
    status = .started := by
  cases status with
  | started => rfl
  | created => simp [coherent.unstarted rfl] at found
  | failed | completed | cancelled => exact absurd going (coherent.resting rfl last found)

theorem started_of_active (coherent : CoherentHistory workflow status history) {last : StateRun}
    (found : history.getLast? = some last) (active : status.isTerminal = false) :
    status = .started := by
  cases status with
  | started => rfl
  | created => simp [coherent.unstarted rfl] at found
  | failed | completed | cancelled => cases active

theorem ended (coherent : CoherentHistory workflow status history) :
    ∀ stateRun ∈ history.dropLast, stateRun.status.isTerminal = true := by
  intro stateRun member
  obtain ⟨index, bound, rfl⟩ := List.mem_iff_getElem.mp member
  have inside : index + 1 < history.length := by
    rw [List.length_dropLast] at bound
    omega
  rw [List.getElem_dropLast]
  exact (coherent.linked.getElem index inside).terminal

theorem append (coherent : CoherentHistory workflow status history) {stateRun : StateRun}
    (first : history = [] → stateRun.stateName = workflow.startsAt ∧ stateRun.retryNumber = 0)
    (behind : ∀ last, history.getLast? = some last → last.Linked stateRun)
    (known : workflow.state? stateRun.stateName = some stateRun.definition) :
    CoherentHistory workflow .started (history ++ [stateRun]) where
  begins := by
    intro head found
    cases history with
    | nil =>
        cases found
        exact first rfl
    | cons other rest => exact coherent.begins head found
  linked := by
    refine coherent.linked.append (.singleton _) ?_
    intro last found next same
    cases same
    exact behind last found
  defined := by
    intro other member
    rcases List.mem_append.mp member with old | new
    · exact coherent.defined other old
    · rw [List.mem_singleton.mp new]
      exact known
  numbered := by
    intro index other found
    rw [List.getElem?_append] at found
    split at found
    · exact coherent.numbered index other found
    next beyond =>
      have place : index = history.length := by
        have := (List.getElem?_eq_some_iff.mp found).1
        simp at this
        omega
      subst place
      simp only [Nat.sub_self, List.getElem?_cons_zero, Option.some.injEq] at found
      subst other
      cases last : history.getLast? with
      | none =>
          have zero := (first (List.getLast?_eq_none_iff.mp last)).2
          simp [zero]
      | some earlier =>
          have bound := coherent.numbered (history.length - 1) earlier
            (by rw [← List.getLast?_eq_getElem?]; exact last)
          have nonempty : history ≠ [] := by
            rintro rfl
            simp at last
          have positive := List.length_pos_iff.mpr nonempty
          rcases behind earlier last with ⟨_, retried, _⟩ | ⟨_, restarted, _⟩
          · rw [retried, UInt32.toNat_add]
            have one : (1 : UInt32).toNat = 1 := rfl
            omega
          · simp [restarted]
  unstarted := by simp
  completed := by simp
  failed := by simp
  resting := by simp [WorkflowStatus.isTerminal]

theorem replaceLast {front : List StateRun} {current changed : StateRun}
    (coherent : CoherentHistory workflow status (front ++ [current]))
    (going : current.status = .started) (same : current.SameRun changed) :
    CoherentHistory workflow status (front ++ [changed]) := by
  have started := coherent.started_of_running List.getLast?_concat going
  subst started
  have known := coherent.defined current (by simp)
  refine ⟨?_, ?_, ?_, ?_, by simp, by simp, by simp, by simp [WorkflowStatus.isTerminal]⟩
  · intro head found
    cases front with
    | nil =>
        cases found
        rw [same.stateName, same.retryNumber]
        exact coherent.begins current rfl
    | cons other rest => exact coherent.begins head found
  · obtain ⟨chain, _, link⟩ := List.isChain_append.mp coherent.linked
    refine chain.append (.singleton _) ?_
    intro earlier found later here
    cases here
    have linked := link earlier found current rfl
    unfold StateRun.Linked at linked ⊢
    rw [same.stateName, same.retryNumber]
    exact linked
  · intro other member
    rcases List.mem_append.mp member with old | new
    · exact coherent.defined other (List.mem_append_left _ old)
    · rw [List.mem_singleton.mp new, same.stateName, same.definition]
      exact known
  · intro index other found
    have bounds := coherent.numbered index
    rw [List.getElem?_append] at found bounds
    split at found
    next inside => exact bounds other (by rw [if_pos inside]; exact found)
    next beyond =>
      have here := List.mem_of_getElem? found
      rw [List.mem_singleton.mp here, same.retryNumber]
      apply bounds current
      rw [if_neg beyond]
      have place := (List.getElem?_eq_some_iff.mp found).1
      simp only [List.length_singleton] at place
      simp [show index - front.length = 0 by omega]

theorem withStatus (coherent : CoherentHistory workflow status history) {ended : WorkflowStatus}
    (notCreated : ended ≠ .created)
    (completed : ended = .completed →
      ∃ last, history.getLast? = some last ∧ last.status = .completed ∧
        last.definition.successor = none)
    (failed : ended = .failed →
      ∃ last, history.getLast? = some last ∧ last.retriesExhausted = true)
    (resting : ∀ last, history.getLast? = some last → last.status ≠ .started) :
    CoherentHistory workflow ended history :=
  ⟨coherent.begins, coherent.linked, coherent.defined, coherent.numbered,
    fun created => absurd created notCreated, completed, failed, fun _ => resting⟩

theorem rests (coherent : CoherentHistory workflow status history)
    (resting : ∀ last, history.getLast? = some last → last.status ≠ .started) :
    ∀ stateRun ∈ history, stateRun.status ≠ .started := by
  intro stateRun member going
  rcases List.eq_nil_or_concat history with empty | ⟨front, last, shape⟩
  · simp [empty] at member
  · rw [List.concat_eq_append] at shape
    subst shape
    rcases List.mem_append.mp member with old | new
    · have ended := coherent.ended stateRun (by simpa using old)
      rw [going] at ended
      cases ended
    · rw [List.mem_singleton.mp new] at going
      exact resting last List.getLast?_concat going

theorem not_started (coherent : CoherentHistory workflow status history)
    (terminal : status.isTerminal = true) :
    ∀ stateRun ∈ history, stateRun.status ≠ .started :=
  coherent.rests (coherent.resting terminal)

end CoherentHistory

theorem StateRun.sameRun_refreshed (current : StateRun) (containers : List ContainerInstance) :
    current.SameRun { current with containers }.refreshed := by
  unfold StateRun.refreshed
  split <;> exact ⟨rfl, rfl, rfl, rfl⟩

/-! ## Moves keep a run coherent -/

namespace Session

def Coherent (session : Session σ ρ) : Prop :=
  CoherentHistory session.run.workflow session.run.status session.run.history

namespace Coherent

variable {session : Session σ ρ} {current : StateRun}

theorem withCurrent (coherent : session.Coherent) (last : session.run.current? = some current)
    (going : current.status = .started) {changed : StateRun} (same : current.SameRun changed) :
    CoherentHistory session.run.workflow session.run.status
      (session.run.withCurrent changed).history := by
  obtain ⟨front, shape⟩ := List.getLast?_eq_some_iff.mp last
  have replaced : (session.run.withCurrent changed).history = front ++ [changed] := by
    simp [WorkflowRun.withCurrent, shape]
  rw [replaced]
  have before : CoherentHistory session.run.workflow session.run.status
      (front ++ [current]) := shape ▸ coherent
  exact before.replaceLast going same

theorem withStatus (coherent : session.Coherent) {ended : WorkflowStatus}
    (notCreated : ended ≠ .created)
    (completed : ended = .completed →
      ∃ last, session.run.current? = some last ∧ last.status = .completed ∧
        last.definition.successor = none)
    (failed : ended = .failed →
      ∃ last, session.run.current? = some last ∧ last.retriesExhausted = true)
    (resting : ∀ last, session.run.current? = some last → last.status ≠ .started) :
    (session.withStatus ended).Coherent :=
  CoherentHistory.withStatus coherent notCreated completed failed resting

theorem launched [ContainerService σ] (coherent : session.Coherent)
    (last : session.run.current? = some current)
    (started : session.run.status = .started) {stateName : String}
    {definition : StateDefinition} {retryNumber : UInt32}
    (known : session.run.workflow.state? stateName = some definition)
    (linked : (stateName = current.stateName ∧ retryNumber = current.retryNumber + 1 ∧
        (current.status = .failed ∨ current.status = .cancelled)) ∨
      (current.definition.successor = some stateName ∧ retryNumber = 0 ∧
        current.status = .completed)) :
    (session.launched stateName definition retryNumber).Coherent := by
  have appended : CoherentHistory session.run.workflow .started
      (session.launched stateName definition retryNumber).run.history := by
    refine CoherentHistory.append coherent ?_ ?_ known
    · intro empty
      simp [WorkflowRun.current?, empty] at last
    · intro other found
      have same : other = current := Option.some.inj (found.symm.trans last)
      rw [same]
      exact linked
  rw [← started] at appended
  exact appended

end Coherent

variable [ContainerService σ] [RunRepository ρ] {world : σ → σ → Prop}

theorem Move.coherent {before after : Session σ ρ} (move : Move world before after)
    (coherent : before.Coherent) : after.Coherent := by
  cases move with
  | launchFirst unstarted known =>
      have empty := coherent.unstarted unstarted
      refine CoherentHistory.append coherent ?_ ?_ known
      · intro _
        exact ⟨rfl, rfl⟩
      · intro last found
        simp [empty] at found
  | launchNext started last completed follows known =>
      exact coherent.launched last started known (.inr ⟨follows, rfl, completed⟩)
  | launchAgain active last stuck _ known =>
      have started := CoherentHistory.started_of_active coherent last active
      exact coherent.launched last started known (.inl ⟨rfl, rfl, stuck⟩)
  | complete started last completed final =>
      refine coherent.withStatus (by simp) ?_ (by simp) ?_
      · intro _
        exact ⟨_, last, completed, final⟩
      · intro other found
        rw [Option.some.inj (found.symm.trans last), completed]
        simp
  | poll active last going =>
      exact coherent.withCurrent last going (StateRun.sameRun_refreshed _ _)
  | stop last going => exact coherent.withCurrent last going ⟨rfl, rfl, rfl, rfl⟩
  | cancel active rests =>
      exact coherent.withStatus (by simp) (by simp) (by simp) rests
  | giveUp active last exhausted =>
      refine coherent.withStatus (by simp) (by simp) ?_ ?_
      · intro _
        exact ⟨_, last, exhausted⟩
      · intro other found
        rw [Option.some.inj (found.symm.trans last)]
        intro going
        simp [StateRun.retriesExhausted, going] at exhausted
  | save | pause | interfere _ | recount => exact coherent

end Session

end PrivateComputation
