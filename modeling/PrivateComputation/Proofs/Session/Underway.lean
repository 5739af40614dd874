import PrivateComputation.Proofs.Session.Loop
import PrivateComputation.Proofs.Session.Resume

/-!
What a round does to a run when nothing stands in its way: writes go well, nobody asks to cancel,
and the state run is over after its poll. The round then either ends the workflow or launches one
more state run.
-/

namespace PrivateComputation

variable {σ ρ : Type} [ContainerService σ] [RunRepository ρ] [DurableRunRepository ρ]

theorem toNat_add_one_lt_size {number bound : UInt32} (less : number < bound) :
    number.toNat + 1 < UInt32.size := by
  have fewer := UInt32.lt_iff_toNat_lt.mp less
  have most := bound.toNat_lt_size
  omega

theorem toNat_add_one_eq_iff {number : UInt32} :
    number.toNat + 1 = 2 ^ 32 ↔ ¬number.toNat + 1 < UInt32.size := by
  have small := number.toNat_lt_size
  have size : UInt32.size = 2 ^ 32 := rfl
  omega

theorem toNat_add_one {number : UInt32} (below : number.toNat + 1 < UInt32.size) :
    (number + 1).toNat = number.toNat + 1 := by
  rw [UInt32.toNat_add]
  exact Nat.mod_eq_of_lt below

namespace Session

/-- A poll of the state run that is going on will be answered, and will leave it only containers of
some kind. -/
def PollLeaves (session : Session σ ρ) (kind : ContainerInstance → Prop) : Prop :=
  ∀ current, session.running? = some current →
    ∃ answers, (ContainerService.poll current.containerIds session.service).1 = .ok answers ∧
      ∀ container ∈ takeAnswers current.containers answers, kind container

omit [RunRepository ρ] [DurableRunRepository ρ] in
theorem pollLeaves_iff {session : Session σ ρ} {kind : ContainerInstance → Prop} :
    session.PollLeaves kind ↔ ∀ current ∈ session.running?,
      ∃ answers ∈ (ContainerService.poll current.containerIds session.service).1.toOption,
        ∀ container ∈ takeAnswers current.containers answers, kind container := by
  refine forall₂_congr fun current _ => ?_
  cases (ContainerService.poll current.containerIds session.service).1 <;>
    simp [Except.toOption]

instance (session : Session σ ρ) (kind : ContainerInstance → Prop) [DecidablePred kind] :
    Decidable (session.PollLeaves kind) :=
  decidable_of_iff' _ pollLeaves_iff

/-- A started run of a workflow whose last state run stands behind a part of its history, in a
repository that takes it. -/
structure Underway (workflow : Workflow) (front : List StateRun) (current : StateRun)
    (session : Session σ ρ) : Prop where
  follows : session.run.workflow = workflow
  status : session.run.status = .started
  history : session.run.history = front ++ [current]
  known : workflow.state? current.stateName = some current.definition
  containers : current.status = .ofContainers current.containers
  holds : DurableRunRepository.Holds session.repository session.run.id

variable {workflow : Workflow} {front : List StateRun} {current : StateRun}
  {session : Session σ ρ} {cancel : Nat → σ → Bool × σ}

namespace Underway

omit [ContainerService σ] in
theorem active (underway : session.Underway workflow front current) :
    session.run.status.isTerminal = false := by
  rw [underway.status]
  rfl

omit [ContainerService σ] in
theorem current? (underway : session.Underway workflow front current) :
    session.run.current? = some current := by
  rw [WorkflowRun.current?, underway.history, List.getLast?_concat]

omit [ContainerService σ] in
theorem resting (underway : session.Underway workflow front current)
    (settled : current.status ≠ .started) : session.running? = none := by
  refine running?_eq_none_iff.mpr ?_
  intro other last
  cases underway.current?.symm.trans last
  exact settled

omit [ContainerService σ] in
theorem asked (underway : session.Underway workflow front current)
    (cancel : Nat → σ → Bool × σ) :
    (session.asked cancel).Underway workflow front current :=
  ⟨underway.follows, underway.status, underway.history, underway.known, underway.containers,
    underway.holds⟩

omit [ContainerService σ] in
theorem saved (underway : session.Underway workflow front current) :
    ∃ after, session.saved = (.ok (), after) ∧ after.Underway workflow front current := by
  obtain ⟨passed, holds, _⟩ := saved_of_holds underway.holds
  exact ⟨session.saved.2, Prod.ext passed rfl,
    ⟨underway.follows, underway.status, underway.history, underway.known, underway.containers,
      holds⟩⟩

omit [ContainerService σ] in
theorem withStatus (underway : session.Underway workflow front current)
    (status : WorkflowStatus) :
    ∃ after, (session.withStatus status).saved = (.ok (), after) ∧ after.run.status = status ∧
      after.run.history = front ++ [current] := by
  have holds : DurableRunRepository.Holds (session.withStatus status).repository
      (session.withStatus status).run.id := underway.holds
  obtain ⟨passed, _, _⟩ := saved_of_holds holds
  exact ⟨(session.withStatus status).saved.2, Prod.ext passed rfl, rfl, underway.history⟩

end Underway

theorem underway_launched {name : String} {definition : StateDefinition}
    (number : UInt32) (same : session.run.workflow = workflow)
    (status : session.run.status = .started)
    (known : workflow.state? name = some definition)
    (holds : DurableRunRepository.Holds session.repository session.run.id) :
    ∃ launched, launched.stateName = name ∧ launched.definition = definition ∧
      launched.retryNumber = number ∧
      (session.launched name definition number).Underway workflow session.run.history
        launched :=
  ⟨_, rfl, rfl, rfl, ⟨same, status, rfl, known, rfl, holds⟩⟩

namespace Underway

theorem refresh (underway : session.Underway workflow front current) :
    ∃ refreshed settled,
      (Session.refresh : SessionM σ ρ WorkflowStatus).perform session =
          (.ok .started, refreshed) ∧
        refreshed.Underway workflow front settled ∧ current.SameRun settled ∧
        settled.containers = session.awaited current := by
  rw [perform_refresh, if_neg (by simp [underway.active]), underway.status]
  by_cases going : current.status = .started
  · let settled : StateRun := { current with containers := session.awaited current }.refreshed
    have same : current.SameRun settled := StateRun.sameRun_refreshed _ _
    have shape : settled = { current with
        containers := session.awaited current
        status := .ofContainers (session.awaited current) } := if_pos going
    have polled : (session.polled current).Underway workflow front settled := by
      refine ⟨underway.follows, underway.status, ?_, ?_, ?_, underway.holds⟩
      · rw [polled_run going, WorkflowRun.withCurrent, underway.history, List.dropLast_concat]
      · rw [same.stateName, same.definition]
        exact underway.known
      · rw [shape]
    obtain ⟨refreshed, passed, after⟩ := polled.saved
    rw [running?_eq_some_iff.mpr ⟨underway.current?, going⟩]
    dsimp only
    rw [passed]
    exact ⟨refreshed, settled, rfl, after, same, by rw [shape]⟩
  · rw [underway.resting going]
    exact ⟨session, current, rfl, underway, ⟨rfl, rfl, rfl, rfl⟩, (if_neg going).symm⟩

theorem refresh_settled (underway : session.Underway workflow front current)
    (settled : current.status ≠ .started) :
    (Session.refresh : SessionM σ ρ WorkflowStatus).perform session = (.ok .started, session) := by
  rw [perform_refresh, if_neg (by simp [underway.active]), underway.resting settled,
    underway.status]

/-! ## Rounds -/

theorem round (underway : session.Underway workflow front current)
    (declined : session.cancelAnswer cancel = false) :
    ∃ refreshed settled, refreshed.Underway workflow front settled ∧ current.SameRun settled ∧
      settled.status = .ofContainers ((session.asked cancel).awaited current) ∧
      (Session.round cancel : SessionM σ ρ Unit).perform session =
        match settled.status with
        | .completed => (next : SessionM σ ρ Unit).perform refreshed
        | .failed | .cancelled =>
            if settled.retriesExhausted then (refreshed.withStatus .failed).saved
            else (retry : SessionM σ ρ Unit).perform refreshed
        | .created | .started => (.ok (), refreshed.paused) := by
  obtain ⟨refreshed, settled, passed, after, same, containers⟩ :=
    (underway.asked cancel).refresh
  refine ⟨refreshed, settled, after, same, by rw [after.containers, containers], ?_⟩
  rw [perform_round_declined session declined, proceeded, passed]
  dsimp only
  rw [after.current?]
  rfl

theorem round_completes (underway : session.Underway workflow front current)
    (declined : session.cancelAnswer cancel = false)
    (completed : .ofContainers ((session.asked cancel).awaited current) = WorkflowStatus.completed)
    (ends : current.definition.successor = none) :
    ∃ after settled, (Session.round cancel : SessionM σ ρ Unit).perform session = (.ok (), after) ∧
      current.SameRun settled ∧ settled.status = .completed ∧ after.run.status = .completed ∧
      after.run.history = front ++ [settled] := by
  obtain ⟨refreshed, settled, underway, same, status, round⟩ := underway.round declined
  have done : settled.status = .completed := status.trans completed
  obtain ⟨after, passed, finished, history⟩ := underway.withStatus .completed
  refine ⟨after, settled, ?_, same, done, finished, history⟩
  rw [round, done]
  dsimp only
  rw [perform_next, underway.refresh_settled (by simp [done])]
  dsimp only
  rw [underway.current?]
  dsimp only
  rw [if_pos ⟨underway.status, done⟩, same.definition, ends]
  exact passed

theorem round_advances (underway : session.Underway workflow front current)
    (declined : session.cancelAnswer cancel = false)
    (completed : .ofContainers ((session.asked cancel).awaited current) = WorkflowStatus.completed)
    {name : String} {definition : StateDefinition}
    (follows : current.definition.successor = some name)
    (known : workflow.state? name = some definition) :
    ∃ after settled launched,
      (Session.round cancel : SessionM σ ρ Unit).perform session = (.ok (), after) ∧
      current.SameRun settled ∧ settled.status = .completed ∧ launched.stateName = name ∧
      launched.definition = definition ∧ launched.retryNumber = 0 ∧
      after.Underway workflow (front ++ [settled]) launched := by
  obtain ⟨refreshed, settled, underway, same, status, round⟩ := underway.round declined
  have done : settled.status = .completed := status.trans completed
  obtain ⟨launched, stateName, defined, number, next⟩ :=
    underway_launched 0 underway.follows underway.status known underway.holds
  obtain ⟨after, passed, final⟩ := next.saved
  refine ⟨after, settled, launched, ?_, same, done, stateName, defined, number, ?_⟩
  · rw [round, done]
    dsimp only
    rw [perform_next, underway.refresh_settled (by simp [done])]
    dsimp only
    rw [underway.current?]
    dsimp only
    rw [if_pos ⟨underway.status, done⟩, same.definition, follows]
    dsimp only
    rw [underway.follows, known]
    exact passed
  · rwa [← underway.history]

theorem round_gives_up (underway : session.Underway workflow front current)
    (declined : session.cancelAnswer cancel = false)
    (failed : .ofContainers ((session.asked cancel).awaited current) = WorkflowStatus.failed)
    (exhausted : current.definition.retryCount ≤ current.retryNumber) :
    ∃ after settled, (Session.round cancel : SessionM σ ρ Unit).perform session = (.ok (), after) ∧
      current.SameRun settled ∧ settled.status = .failed ∧ after.run.status = .failed ∧
      after.run.history = front ++ [settled] := by
  obtain ⟨refreshed, settled, underway, same, status, round⟩ := underway.round declined
  have stuck : settled.status = .failed := status.trans failed
  have spent : settled.retriesExhausted = true := by
    refine settled.retriesExhausted_iff.mpr ⟨stuck, ?_⟩
    rwa [same.definition, same.retryNumber]
  obtain ⟨after, passed, finished, history⟩ := underway.withStatus .failed
  refine ⟨after, settled, ?_, same, stuck, finished, history⟩
  rw [round, stuck]
  dsimp only
  rw [if_pos spent]
  exact passed

theorem round_retries (underway : session.Underway workflow front current)
    (declined : session.cancelAnswer cancel = false)
    (failed : .ofContainers ((session.asked cancel).awaited current) = WorkflowStatus.failed)
    (left : ¬current.definition.retryCount ≤ current.retryNumber) :
    ∃ after settled launched,
      (Session.round cancel : SessionM σ ρ Unit).perform session = (.ok (), after) ∧
      current.SameRun settled ∧ settled.status = .failed ∧
      launched.stateName = current.stateName ∧ launched.definition = current.definition ∧
      launched.retryNumber = current.retryNumber + 1 ∧
      after.Underway workflow (front ++ [settled]) launched := by
  have known := underway.known
  obtain ⟨refreshed, settled, underway, same, status, round⟩ := underway.round declined
  have stuck : settled.status = .failed := status.trans failed
  have unspent : ¬settled.retriesExhausted = true := by
    intro spent
    have bound := (settled.retriesExhausted_iff.mp spent).2
    rw [same.definition, same.retryNumber] at bound
    exact left bound
  have below := toNat_add_one_lt_size (UInt32.not_le.mp left)
  obtain ⟨launched, stateName, defined, number, next⟩ :=
    underway_launched (current.retryNumber + 1) underway.follows underway.status known
      underway.holds
  obtain ⟨after, passed, final⟩ := next.saved
  refine ⟨after, settled, launched, ?_, same, stuck, stateName, defined, number, ?_⟩
  · rw [round, stuck]
    dsimp only
    rw [if_neg unspent, perform_retry, if_neg (by simp [underway.active]), underway.current?]
    dsimp only
    rw [if_pos (.inl stuck), same.retryNumber, if_pos below, same.stateName, underway.follows,
      known]
    exact passed
  · rwa [← underway.history]

end Underway

theorem opens_of_begin {id environmentId runner : String} {surroundings : Surroundings σ ρ}
    {first : StateDefinition}
    (begun : (begin id environmentId workflow runner surroundings).1 = .ok session)
    (known : workflow.state? workflow.startsAt = some first) (cancel : Nat → σ → Bool × σ) :
    ∃ opened launched, opened.Underway workflow [] launched ∧
      launched.stateName = workflow.startsAt ∧ launched.definition = first ∧
      launched.retryNumber = 0 ∧
      ∀ count,
        (runToEnd cancel count : SessionM σ ρ (Option WorkflowStatus)).perform session =
          (rounds cancel count : SessionM σ ρ (Option WorkflowStatus)).perform opened := by
  obtain ⟨created, same⟩ := begin_ok begun
  have holds := DurableRunRepository.holds_create _ _ created
  have fresh : session.run = .fresh id environmentId workflow surroundings.now.next := by
    rw [same]
    rfl
  have unasked : { session with cancelAnswers := [] } = session := by
    rw [same]
    rfl
  have status : session.run.status = .created := by rw [fresh]; rfl
  have follows : session.run.workflow = workflow := by rw [fresh]; rfl
  have empty : session.run.history = [] := by rw [fresh]; rfl
  have kept : DurableRunRepository.Holds (session.withStatus .started).repository
      (session.withStatus .started).run.id := by
    rw [same]
    exact holds
  obtain ⟨launched, stateName, defined, number, underway⟩ :=
    underway_launched 0 (show (session.withStatus .started).run.workflow = workflow from follows)
      rfl known kept
  rw [show (session.withStatus .started).run.history = [] from empty] at underway
  obtain ⟨opened, passed, after⟩ := underway.saved
  refine ⟨opened, launched, after, stateName, defined, number, ?_⟩
  intro count
  have started : ((session.launched workflow.startsAt first 0).withStatus .started).saved =
      (.ok (), opened) := passed
  rw [perform_runToEnd, if_pos status, unasked, perform_start, if_pos status, follows, known]
  dsimp only
  rw [started]

end Session

end PrivateComputation
