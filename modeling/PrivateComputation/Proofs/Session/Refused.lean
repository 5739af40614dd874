import PrivateComputation.Proofs.Repository.Atomic
import PrivateComputation.Proofs.Session.Passing
import PrivateComputation.Proofs.Session.Stored

/-!
What a refused write leaves: the repository is as before that write, and a session that is loaded
from it can repeat the call in any repository that takes its writes; the session that made the call
keeps what it did.
-/

namespace PrivateComputation

variable {σ ρ ρ' : Type}

/-- The operations that are no loops and do not only look. -/
def Operation.steps : List (Operation σ) := [.start, .next, .retry, .cancelState, .cancelWorkflow]

namespace Session

def withRepository (session : Session σ ρ) (repository : ρ') : Session σ ρ' :=
  { session with repository }

section Refused

variable [ContainerService σ] [RunRepository ρ]

/-- How far a call came whose write was refused: the call of its own that this write ended, and the
session which that set out from. What `next` has polled and `cancelWorkflow` has stopped is written
before the rest is done. -/
inductive CameTo (session : Session σ ρ) : Operation σ → Operation σ → Session σ ρ → Prop where
  | only {operation : Operation σ} (single : operation ∈ [.start, .retry, .cancelState]) :
      CameTo session operation operation session
  | poll {fault : SessionFault} (refused : (session.operate .refresh).1 = .error fault) :
      CameTo session .next .refresh session
  | advance {status : WorkflowStatus}
      (polled : (session.operate .refresh).1 = .ok (.status status)) :
      CameTo session .next .next (session.operate .refresh).2
  | stop {fault : SessionFault} (refused : (session.operate .cancelState).1 = .error fault) :
      CameTo session .cancelWorkflow .cancelState session
  | close (stopped : (session.operate .cancelState).1 = .ok .done) :
      CameTo session .cancelWorkflow .cancelWorkflow (session.operate .cancelState).2

/-- What is left of a call whose write was refused. The other repositories are those that go on
taking the run. -/
structure Leaves (session : Session σ ρ) (operation performed : Operation σ)
    (written after : Session σ ρ) : Prop where
  cameTo : session.CameTo operation performed written
  repository : RunRepository.read session.run.id after.repository =
    RunRepository.read session.run.id written.repository
  memory : ∀ {ρ' : Type} [RunRepository ρ'] [DurableRunRepository ρ'] {other : ρ'},
    (session.withRepository other).Held → ∃ reply kept,
      (session.withRepository other).operate performed = (.ok reply, after.withRepository kept)
  again : ∀ loaded : Session σ ρ, loaded.run = written.run → performed ≠ .refresh →
    ∀ {ρ' : Type} [RunRepository ρ'] [DurableRunRepository ρ'] {other : ρ'},
      (loaded.withRepository other).Held →
        ((loaded.withRepository other).operate operation).1 = .ok .done

/-! ## Effects and other repositories -/

section Elsewhere

variable [RunRepository ρ'] [DurableRunRepository ρ'] {session : Session σ ρ} {other : ρ'}

theorem refresh_elsewhere (held : (session.withRepository other).Held) :
    ∃ kept, (session.withRepository other).operate .refresh =
      (.ok (.status session.run.status), (session.operate .refresh).2.withRepository kept) := by
  have passes := held.refresh.1
  have same : (session.withRepository other).running? = session.running? := rfl
  rw [operate_refresh, passes, operate_refresh, perform_refresh, operate_refresh, perform_refresh]
  by_cases terminal : session.run.status.isTerminal = true
  · have ended : (session.withRepository other).run.status.isTerminal = true := terminal
    rw [if_pos terminal, if_pos ended]
    exact ⟨_, rfl⟩
  · have active : ¬(session.withRepository other).run.status.isTerminal = true := terminal
    rw [if_neg terminal, if_neg active, same]
    cases session.running? with
    | none => exact ⟨_, rfl⟩
    | some current =>
        exact ⟨((session.withRepository other).polled current).saved.2.repository, rfl⟩

theorem cancelState_elsewhere (held : (session.withRepository other).Held) :
    ∃ kept, (session.withRepository other).operate .cancelState =
      (.ok .done, (session.operate .cancelState).2.withRepository kept) := by
  have passes := held.cancelState.1
  have same : (session.withRepository other).running? = session.running? := rfl
  rw [operate_cancelState, passes, operate_cancelState, perform_cancelState, operate_cancelState,
    perform_cancelState, same]
  cases session.running? with
  | none => exact ⟨_, rfl⟩
  | some current =>
      exact ⟨((session.withRepository other).stopped current).saved.2.repository, rfl⟩

theorem Ready.elsewhere {current : StateRun} (ready : session.Ready current)
    (held : (session.withRepository other).Held) : (session.withRepository other).Ready current := by
  obtain ⟨kept, polls⟩ := refresh_elsewhere held
  constructor
  · rw [polls]
    exact ready.last
  · rw [polls]
    exact ready.started
  · exact ready.completed

end Elsewhere

/-! ## Refused writes of the operations -/

section Operations

variable [AtomicRunRepository ρ] {session : Session σ ρ} {fault : RepositoryFault}

omit [ContainerService σ] in
theorem read_refused {moved : Session σ ρ} (refused : moved.saved.1 = .error (.repository fault)) :
    RunRepository.read moved.run.id moved.saved.2.repository =
      RunRepository.read moved.run.id moved.repository := by
  rw [saved] at refused
  cases written : (RunRepository.update moved.touched.run moved.repository).1 with
  | ok => simp [written, Except.mapError] at refused
  | error other => exact AtomicRunRepository.read_refused moved.touched.run _ other written

theorem start_leaves
    (refused : ((start : SessionM σ ρ Unit).perform session).1 = .error (.repository fault)) :
    session.Leaves .start .start session ((start : SessionM σ ρ Unit).perform session).2 := by
  rw [perform_start] at refused ⊢
  by_cases created : session.run.status = .created
  · rw [if_pos created] at refused ⊢
    cases known : session.run.workflow.state? session.run.workflow.startsAt with
    | none =>
        rw [known] at refused
        cases refused
    | some definition =>
        rw [known] at refused
        constructor
        · exact .only (by simp)
        · exact read_refused refused
        · intro _ _ _ other held
          let opened := ((session.withRepository other).launched session.run.workflow.startsAt
            definition 0).withStatus .started
          refine ⟨.done, opened.saved.2.repository, ?_⟩
          rw [operate_start, held.start created known]
          rfl
        · intro loaded same _ _ _ _ other held
          have fresh : (loaded.withRepository other).run.status = .created := same ▸ created
          rw [operate_start, held.start fresh (same ▸ known)]
          rfl
  · rw [if_neg created] at refused
    cases refused

theorem retry_leaves
    (refused : ((retry : SessionM σ ρ Unit).perform session).1 = .error (.repository fault)) :
    session.Leaves .retry .retry session ((retry : SessionM σ ρ Unit).perform session).2 := by
  rw [perform_retry] at refused ⊢
  by_cases terminal : session.run.status.isTerminal = true
  · rw [if_pos terminal] at refused
    cases refused
  rw [if_neg terminal] at refused ⊢
  have active : session.run.status.isTerminal = false := by simpa using terminal
  cases last : session.run.current? with
  | none =>
      rw [last] at refused
      cases refused
  | some current =>
      rw [last] at refused
      dsimp only at refused ⊢
      by_cases stuck : current.status = .failed ∨ current.status = .cancelled
      · rw [if_pos stuck] at refused ⊢
        by_cases below : current.retryNumber.toNat + 1 < UInt32.size
        · rw [if_pos below] at refused ⊢
          cases known : session.run.workflow.state? current.stateName with
          | none =>
              rw [known] at refused
              cases refused
          | some definition =>
              rw [known] at refused
              constructor
              · exact .only (by simp)
              · exact read_refused refused
              · intro _ _ _ other held
                let again := (session.withRepository other).launched current.stateName definition
                  (current.retryNumber + 1)
                refine ⟨.done, again.saved.2.repository, ?_⟩
                rw [operate_retry, held.retry active last stuck below known]
                rfl
              · intro loaded same _ _ _ _ other held
                rw [operate_retry, held.retry (same ▸ active) (same ▸ last) stuck below
                  (same ▸ known)]
                rfl
        · rw [if_neg below] at refused
          cases refused
      · rw [if_neg stuck] at refused
        cases refused

theorem cancelState_leaves
    (refused : ((cancelState : SessionM σ ρ Unit).perform session).1 =
      .error (.repository fault)) :
    session.Leaves .cancelState .cancelState session
      ((cancelState : SessionM σ ρ Unit).perform session).2 := by
  rw [perform_cancelState] at refused ⊢
  cases running : session.running? with
  | none =>
      rw [running] at refused
      cases refused
  | some current =>
      rw [running] at refused
      constructor
      · exact .only (by simp)
      · exact read_refused refused
      · intro _ _ _ other held
        have same : (session.withRepository other).running? = some current := running
        refine ⟨.done, ((session.withRepository other).stopped current).saved.2.repository, ?_⟩
        rw [operate_cancelState, perform_cancelState, same]
        dsimp only
        rw [(held.stopped current).saved]
        rfl
      · intro loaded _ _ _ _ _ other held
        rw [operate_cancelState, held.cancelState.1]
        rfl

theorem poll_leaves
    (refused : ((refresh : SessionM σ ρ WorkflowStatus).perform session).1 =
      .error (.repository fault)) :
    session.Leaves .next .refresh session (session.operate .refresh).2 := by
  have answer : (session.operate .refresh).1 = .error (.repository fault) := by
    rw [operate_refresh, refused]
    rfl
  refine ⟨.poll answer, ?_, fun held => ⟨_, refresh_elsewhere held⟩,
    fun _ _ first => absurd rfl first⟩
  rw [operate_refresh]
  rw [perform_refresh] at refused ⊢
  by_cases terminal : session.run.status.isTerminal = true
  · rw [if_pos terminal] at refused
    cases refused
  · rw [if_neg terminal] at refused ⊢
    cases running : session.running? with
    | none => rfl
    | some current =>
        rw [running] at refused
        dsimp only at refused
        cases written : (session.polled current).saved.1 with
        | ok =>
            rw [written] at refused
            cases refused
        | error other =>
            rw [written] at refused
            cases refused
            exact read_refused written

omit [AtomicRunRepository ρ] in
theorem refresh_id (session : Session σ ρ) :
    (session.operate .refresh).2.run.id = session.run.id :=
  (Moves.continues (operate_moves (within_any .refresh) session)).identity.id

theorem complete_leaves {status : WorkflowStatus} {current : StateRun}
    (polled : (session.operate .refresh).1 = .ok (.status status)) (ready : session.Ready current)
    (final : current.definition.successor = none)
    (refused : ((session.operate .refresh).2.withStatus .completed).saved.1 =
      .error (.repository fault)) :
    session.Leaves .next .next (session.operate .refresh).2
      ((session.operate .refresh).2.withStatus .completed).saved.2 := by
  constructor
  · exact .advance polled
  · rw [← refresh_id session]
    exact read_refused refused
  · intro _ _ _ other held
    obtain ⟨kept, polls⟩ := refresh_elsewhere held
    let ended := ((session.operate .refresh).2.withRepository kept).withStatus .completed
    refine ⟨.done, ended.saved.2.repository, ?_⟩
    rw [operate_next, held.next_completes (ready.elsewhere held) final, polls]
    rfl
  · intro loaded same _ _ _ _ other held
    have again : (loaded.withRepository other).Ready current :=
      ready_of_completed (same ▸ ready.last) (same ▸ ready.started) ready.completed
    rw [operate_next, held.next_completes again final]
    rfl

theorem advance_leaves {status : WorkflowStatus} {current : StateRun} {following : String}
    {definition : StateDefinition}
    (polled : (session.operate .refresh).1 = .ok (.status status)) (ready : session.Ready current)
    (follows : current.definition.successor = some following)
    (known : (session.operate .refresh).2.run.workflow.state? following = some definition)
    (refused : ((session.operate .refresh).2.launched following definition 0).saved.1 =
      .error (.repository fault)) :
    session.Leaves .next .next (session.operate .refresh).2
      ((session.operate .refresh).2.launched following definition 0).saved.2 := by
  constructor
  · exact .advance polled
  · rw [← refresh_id session]
    exact read_refused refused
  · intro _ _ _ other held
    obtain ⟨kept, polls⟩ := refresh_elsewhere held
    have found : ((session.withRepository other).operate .refresh).2.run.workflow.state?
        following = some definition := by
      rw [polls]
      exact known
    let polledAlike := (session.operate .refresh).2.withRepository kept
    let advanced := polledAlike.launched following definition 0
    refine ⟨.done, advanced.saved.2.repository, ?_⟩
    rw [operate_next, held.next_advances (ready.elsewhere held) follows found, polls]
    rfl
  · -- The completed state was stored after its poll, so that there is nothing to poll any more.
    intro loaded same _ _ _ _ other held
    have last : (loaded.withRepository other).run.current? = some current := same ▸ ready.last
    have again : (loaded.withRepository other).Ready current :=
      ready_of_completed last (same ▸ ready.started) ready.completed
    have found : ((loaded.withRepository other).operate .refresh).2.run.workflow.state?
        following = some definition := by
      rw [refresh_of_completed last ready.completed]
      exact same ▸ known
    rw [operate_next, held.next_advances again follows found]
    rfl

theorem next_leaves
    (refused : ((next : SessionM σ ρ Unit).perform session).1 = .error (.repository fault)) :
    ∃ performed written, session.Leaves .next performed written
      ((next : SessionM σ ρ Unit).perform session).2 := by
  have polls := operate_refresh session
  rw [perform_next] at refused ⊢
  rcases answer : (refresh : SessionM σ ρ WorkflowStatus).perform session with
    ⟨other | status, polled⟩
  · rw [answer] at refused polls
    cases refused
    have leaves := poll_leaves (congrArg Prod.fst answer)
    rw [polls] at leaves
    exact ⟨.refresh, session, leaves⟩
  · rw [answer] at refused polls
    obtain rfl : (session.operate .refresh).2 = polled := congrArg Prod.snd polls
    have went : (session.operate .refresh).1 = .ok (.status status) := congrArg Prod.fst polls
    dsimp only at refused ⊢
    cases last : (session.operate .refresh).2.run.current? with
    | none =>
        rw [last] at refused
        cases refused
    | some current =>
        rw [last] at refused
        dsimp only at refused ⊢
        by_cases goes : (session.operate .refresh).2.run.status = .started ∧
            current.status = .completed
        · rw [if_pos goes] at refused ⊢
          have ready : session.Ready current := ⟨last, goes.1, goes.2⟩
          cases follows : current.definition.successor with
          | none =>
              rw [follows] at refused
              exact ⟨_, _, complete_leaves went ready follows refused⟩
          | some following =>
              rw [follows] at refused
              dsimp only at refused ⊢
              cases known : (session.operate .refresh).2.run.workflow.state? following with
              | none =>
                  rw [known] at refused
                  cases refused
              | some definition =>
                  rw [known] at refused
                  exact ⟨_, _, advance_leaves went ready follows known refused⟩
        · rw [if_neg goes] at refused
          cases refused

omit [AtomicRunRepository ρ] in
theorem cancelState_identity (session : Session σ ρ) :
    (session.operate .cancelState).2.run.id = session.run.id ∧
      (session.operate .cancelState).2.run.status = session.run.status := by
  rw [operate_cancelState, perform_cancelState]
  cases session.running? <;> exact ⟨rfl, rfl⟩

omit [AtomicRunRepository ρ] in
theorem stop_leaves (active : session.run.status.isTerminal = false)
    (refused : (session.operate .cancelState).1 = .error (.repository fault))
    (leaves : session.Leaves .cancelState .cancelState session (session.operate .cancelState).2) :
    session.Leaves .cancelWorkflow .cancelState session (session.operate .cancelState).2 := by
  refine ⟨.stop refused, leaves.repository, leaves.memory, ?_⟩
  intro loaded same _ _ _ _ other held
  rw [operate_cancelWorkflow, held.cancelWorkflow (same ▸ active)]
  rfl

theorem close_leaves (active : session.run.status.isTerminal = false)
    (stopped : (session.operate .cancelState).1 = .ok .done)
    (refused : ((session.operate .cancelState).2.withStatus .cancelled).saved.1 =
      .error (.repository fault)) :
    session.Leaves .cancelWorkflow .cancelWorkflow (session.operate .cancelState).2
      ((session.operate .cancelState).2.withStatus .cancelled).saved.2 := by
  obtain ⟨id, status⟩ := cancelState_identity session
  constructor
  · exact .close stopped
  · rw [← id]
    exact read_refused refused
  · intro _ _ _ other held
    obtain ⟨kept, stops⟩ := cancelState_elsewhere held
    let ended := ((session.operate .cancelState).2.withRepository kept).withStatus .cancelled
    refine ⟨.done, ended.saved.2.repository, ?_⟩
    rw [operate_cancelWorkflow, held.cancelWorkflow active, stops]
    rfl
  · intro loaded same _ _ _ _ other held
    have stillActive : (loaded.withRepository other).run.status.isTerminal = false := by
      change loaded.run.status.isTerminal = false
      rw [same, status, active]
    rw [operate_cancelWorkflow, held.cancelWorkflow stillActive]
    rfl

theorem cancelWorkflow_leaves
    (refused : ((cancelWorkflow : SessionM σ ρ Unit).perform session).1 =
      .error (.repository fault)) :
    ∃ performed written, session.Leaves .cancelWorkflow performed written
      ((cancelWorkflow : SessionM σ ρ Unit).perform session).2 := by
  have stops := operate_cancelState session
  rw [perform_cancelWorkflow] at refused ⊢
  by_cases terminal : session.run.status.isTerminal = true
  · rw [if_pos terminal] at refused
    cases refused
  rw [if_neg terminal] at refused ⊢
  have active : session.run.status.isTerminal = false := by simpa using terminal
  rcases answer : (cancelState : SessionM σ ρ Unit).perform session with ⟨other | _, stopped⟩
  · rw [answer] at refused stops
    cases refused
    have leaves := cancelState_leaves (congrArg Prod.fst answer)
    rw [answer] at leaves
    obtain rfl : (session.operate .cancelState).2 = stopped := congrArg Prod.snd stops
    have failed : (session.operate .cancelState).1 = .error (.repository fault) :=
      congrArg Prod.fst stops
    exact ⟨_, _, stop_leaves active failed leaves⟩
  · rw [answer] at refused stops
    obtain rfl : (session.operate .cancelState).2 = stopped := congrArg Prod.snd stops
    have went : (session.operate .cancelState).1 = .ok .done := congrArg Prod.fst stops
    exact ⟨_, _, close_leaves active went refused⟩

omit [ContainerService σ] [RunRepository ρ] [AtomicRunRepository ρ] in
theorem error_of_map {α β : Type} {answer : Except SessionFault α} {view : α → β}
    {fault : SessionFault} (failed : answer.map view = .error fault) : answer = .error fault := by
  cases answer with
  | error other =>
      cases failed
      rfl
  | ok value => cases failed

theorem operate_leaves {operation : Operation σ} (step : operation ∈ Operation.steps)
    (refused : (session.operate operation).1 = .error (.repository fault)) :
    ∃ performed written,
      session.Leaves operation performed written (session.operate operation).2 := by
  simp only [Operation.steps, List.mem_cons, List.not_mem_nil, or_false] at step
  rcases step with rfl | rfl | rfl | rfl | rfl
  · rw [operate_start] at refused ⊢
    exact ⟨_, _, start_leaves (error_of_map refused)⟩
  · rw [operate_next] at refused ⊢
    exact next_leaves (error_of_map refused)
  · rw [operate_retry] at refused ⊢
    exact ⟨_, _, retry_leaves (error_of_map refused)⟩
  · rw [operate_cancelState] at refused ⊢
    exact ⟨_, _, cancelState_leaves (error_of_map refused)⟩
  · rw [operate_cancelWorkflow] at refused ⊢
    exact cancelWorkflow_leaves (error_of_map refused)

theorem CameTo.stored {operation performed : Operation σ} {written : Session σ ρ}
    (cameTo : session.CameTo operation performed written) (stored : session.Stored) :
    written.Stored ∧ written.run.id = session.run.id := by
  cases cameTo with
  | only | poll | stop => exact ⟨stored, rfl⟩
  | advance polled =>
      refine ⟨operate_saves stored .refresh ?_, refresh_id session⟩
      intro fault failed
      cases polled.symm.trans failed
  | close stopped =>
      refine ⟨operate_saves stored .cancelState ?_, (cancelState_identity session).1⟩
      intro fault failed
      cases stopped.symm.trans failed

end Operations

end Refused

end Session

/-- A refused write leaves the repository as it was before that write: a session that is loaded from
it stands where the call stood then, and repeats the call with success in any repository that takes
its writes, unless that has to poll again. The session that made the call is not taken back: it is
left as any repository that takes the write would leave it. -/
theorem refused_write [ContainerService σ] [RunRepository ρ] [AtomicRunRepository ρ]
    (session : Session σ ρ) (operation : Operation σ) (step : operation ∈ Operation.steps)
    (fault : RepositoryFault)
    (refused : (session.operate operation).1 = .error (.repository fault)) :
    let after := (session.operate operation).2
    ∃ performed written, session.CameTo operation performed written ∧
      RunRepository.read session.run.id after.repository =
        RunRepository.read session.run.id written.repository ∧
      (session.Stored → ∀ runner now,
        let loaded := Session.takeUp written.run runner { after.toSurroundings with now }
        Session.load session.run.id runner { after.toSurroundings with now } = .ok loaded ∧
          (performed ≠ .refresh →
            ∀ (ρ' : Type) [RunRepository ρ'] [DurableRunRepository ρ'] (other : ρ'),
              DurableRunRepository.Holds other loaded.run.id →
                ((loaded.withRepository other).operate operation).1 = .ok .done)) ∧
      ∀ (ρ' : Type) [RunRepository ρ'] [DurableRunRepository ρ'] (other : ρ'),
        DurableRunRepository.Holds other session.run.id → ∃ reply kept,
          (session.withRepository other).operate performed =
            (.ok reply, after.withRepository kept) := by
  intro after
  obtain ⟨performed, written, leaves⟩ := Session.operate_leaves step refused
  refine ⟨performed, written, leaves.cameTo, leaves.repository, ?_,
    fun _ _ _ _ holds => leaves.memory holds⟩
  intro stored runner now loaded
  obtain ⟨kept, id⟩ := leaves.cameTo.stored stored
  rw [Session.Stored, id] at kept
  have found : RunRepository.read session.run.id after.repository = .ok written.run :=
    leaves.repository.trans kept
  refine ⟨?_, fun written _ _ _ _ holds => leaves.again loaded rfl written holds⟩
  simp only [Session.load, found]
  rfl

def Refusing.after (taken : Nat) : Refusing MemoryRepository :=
  ⟨⟨.empty, List.replicate taken .passes ++ [.fails .isDirectory false]⟩, by simp⟩

def Session.refusedSample (taken : Nat) : Session ScriptedContainers (Refusing MemoryRepository) :=
  let begun := begin "run" "environment" .sample "runner"
    ⟨ScriptedContainers.fresh, Refusing.after taken, .epoch⟩
  sample .fresh begun.2.repository

/-- The write of the cancelled state goes well, and that of the cancelled workflow is refused. It can
be repeated as soon as the memory takes writes again. -/
theorem refused_write_of_cancellation :
    let reached := ((Session.refusedSample 3).operate .start).2
    let after := (reached.operate .cancelWorkflow).2
    let memory := after.repository.repository
    (reached.operate .cancelWorkflow).1 = .error (.repository (.file .isDirectory)) ∧
      after.run.status = .cancelled ∧
      ∃ loaded,
        Session.load "run" "runner" { after.toSurroundings with now := .epoch } = .ok loaded ∧
          loaded.run.status = .started ∧
          loaded.run.history.map StateRun.status = [.cancelled] ∧
          ((loaded.withRepository memory).operate .cancelWorkflow).1 = .ok .done := by
  intro reached after memory
  have refused :
      (reached.operate .cancelWorkflow).1 = .error (.repository (.file .isDirectory)) := by
    decide +kernel
  have stored : reached.Stored := rfl
  obtain ⟨performed, written, cameTo, _, loads, _⟩ :=
    refused_write reached .cancelWorkflow (by simp [Operation.steps]) _ refused
  obtain ⟨found, again⟩ := loads stored "runner" .epoch
  have notPoll : performed ≠ .refresh := by
    cases cameTo with
    | only single => simp at single
    | stop | close => simp
  have view : (Session.load "run" "runner" { after.toSurroundings with now := .epoch }).map
      (fun loaded => (loaded.run.status, loaded.run.history.map StateRun.status)) =
        .ok (.started, [.cancelled]) := by decide +kernel
  have same : Session.load "run" "runner" { after.toSurroundings with now := .epoch } =
      .ok (Session.takeUp written.run "runner" { after.toSurroundings with now := .epoch }) := found
  rw [same] at view
  simp only [Except.map, Except.ok.injEq, Prod.mk.injEq] at view
  have holds : DurableRunRepository.Holds memory written.run.id := by
    rw [(cameTo.stored stored).2]
    change memory.runs.contains "run" = true
    decide +kernel
  exact ⟨refused, by decide +kernel, _, same, view.1, view.2, again notPoll _ memory holds⟩

/-- A refused start is not taken back: it cannot be repeated, and the repository knows nothing of
it. -/
theorem refused_start_is_kept :
    let session := Session.refusedSample 1
    let after := (session.operate .start).2
    (Session.begin "run" "environment" .sample "runner"
        ⟨ScriptedContainers.fresh, Refusing.after 1, .epoch⟩).1 = .ok session ∧
      session.run.status = .created ∧ session.run.history = [] ∧
      (session.operate .start).1 = .error (.repository (.file .isDirectory)) ∧
      after.run.status = .started ∧ after.run.history.map StateRun.status = [.started] ∧
      (after.operate .start).1 = .error
        (.invalidTransition "start an already-started workflow" .started (some .started)) ∧
      (Session.load "run" "runner" { after.toSurroundings with now := .epoch }).map
        (fun loaded => (loaded.run.status, loaded.run.history.length)) = .ok (.created, 0) := by
  intro session after
  have opened : (Session.begin "run" "environment" .sample "runner"
      ⟨ScriptedContainers.fresh, Refusing.after 1, .epoch⟩).1 = .ok session := rfl
  exact ⟨opened, rfl, rfl, by decide +kernel, by decide +kernel, by decide +kernel,
    by decide +kernel, by decide +kernel⟩

end PrivateComputation
