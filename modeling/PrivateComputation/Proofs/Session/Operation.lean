import PrivateComputation.Workflow.Session

/-!
What can happen to a run that is being driven, and what every operation does to its session. Each
operation has one equation; later proofs use the equations and never open an operation.
-/

namespace PrivateComputation

variable {σ ρ α β : Type}

/-- An operation on a run. The loops are bounded, by a number of polls or of rounds. -/
inductive Operation (σ : Type) where
  | start
  | next
  | retry
  | cancelState
  | cancelWorkflow
  | refresh
  | waitForState (polls : Nat)
  | runToEnd (cancel : Nat → σ → Bool × σ) (maxRounds : Nat)

inductive Reply where
  | done
  | status (status : WorkflowStatus)
  | unfinished
  deriving DecidableEq

def Reply.ofStatus? : Option WorkflowStatus → Reply
  | some reached => .status reached
  | none => .unfinished

abbrev Answer := Except SessionFault Reply

def Operation.action [ContainerService σ] [RunRepository ρ] : Operation σ → SessionM σ ρ Reply
  | .start => do
      Session.start
      pure .done
  | .next => do
      Session.next
      pure .done
  | .retry => do
      Session.retry
      pure .done
  | .cancelState => do
      Session.cancelState
      pure .done
  | .cancelWorkflow => do
      Session.cancelWorkflow
      pure .done
  | .refresh => do
      let status ← Session.refresh
      pure (.status status)
  | .waitForState polls => do
      let status? ← Session.waitForState polls
      pure (.ofStatus? status?)
  | .runToEnd cancel maxRounds => do
      let status? ← Session.runToEnd cancel maxRounds
      pure (.ofStatus? status?)

/-- What happens to a run: an operation, a change of the service by itself, or that its session is
given up and the run taken up from the repository, at some time and with some runner. -/
inductive Event (σ : Type) where
  | operation (operation : Operation σ)
  | meanwhile (change : σ → σ)
  | reload (runner : String) (now : Instant)

namespace Session

def operate [ContainerService σ] [RunRepository ρ] (session : Session σ ρ)
    (operation : Operation σ) : Answer × Session σ ρ :=
  operation.action.perform session

def react [ContainerService σ] [RunRepository ρ] (session : Session σ ρ) :
    Event σ → List Answer × Session σ ρ
  | .operation operation =>
      let (answer, session) := session.operate operation
      ([answer], session)
  | .meanwhile change => ([], { session with service := change session.service })
  | .reload runner now =>
      match load session.run.id runner { session.toSurroundings with now } with
      | .ok session => ([], session)
      | .error fault => ([.error fault], session)

def follow [ContainerService σ] [RunRepository ρ] (session : Session σ ρ) :
    List (Event σ) → List Answer × Session σ ρ
  | [] => ([], session)
  | event :: events =>
      let (answers, session) := session.react event
      let (more, session) := session.follow events
      (answers ++ more, session)

theorem begin_ok [RunRepository ρ] {id environmentId runner : String} {workflow : Workflow}
    {surroundings : Surroundings σ ρ} {session : Session σ ρ}
    (begun : (begin id environmentId workflow runner surroundings).1 = .ok session) :
    (RunRepository.create (.fresh id environmentId workflow surroundings.now.next)
        surroundings.repository).1 = .ok () ∧
      session = takeUp (.fresh id environmentId workflow surroundings.now.next) runner
        { surroundings with
          repository := (RunRepository.create
            (.fresh id environmentId workflow surroundings.now.next) surroundings.repository).2
          now := surroundings.now.next } := by
  unfold begin at begun
  dsimp only at begun
  split at begun
  next created =>
    cases begun
    exact ⟨created, rfl⟩
  next => cases begun

/-! ## Computations of a session -/

@[simp] theorem perform_pure (value : α) (session : Session σ ρ) :
    (pure value : SessionM σ ρ α).perform session = (.ok value, session) := rfl

@[simp] theorem perform_get (session : Session σ ρ) :
    (get : SessionM σ ρ (Session σ ρ)).perform session = (.ok session, session) := rfl

@[simp] theorem perform_set (new session : Session σ ρ) :
    (set new : SessionM σ ρ PUnit).perform session = (.ok (), new) := rfl

@[simp] theorem perform_modify (change : Session σ ρ → Session σ ρ) (session : Session σ ρ) :
    (modify change : SessionM σ ρ PUnit).perform session = (.ok (), change session) := rfl

@[simp] theorem perform_bind (first : SessionM σ ρ α) (second : α → SessionM σ ρ β)
    (session : Session σ ρ) :
    (first >>= second).perform session =
      match first.perform session with
      | (.ok value, session) => (second value).perform session
      | (.error fault, session) => (.error fault, session) := by
  change (match first session with | (result, after) => ExceptT.bindCont second result after) =
    match first session with
    | (.ok value, session) => second value session
    | (.error fault, session) => (.error fault, session)
  rcases first session with ⟨_ | _, _⟩ <;> rfl

theorem perform_map (first : SessionM σ ρ α) (view : α → β) (session : Session σ ρ) :
    (do let value ← first; pure (view value) : SessionM σ ρ β).perform session =
      ((first.perform session).1.map view, (first.perform session).2) := by
  rw [perform_bind]
  rcases first.perform session with ⟨_ | _, _⟩ <;> rfl

/-! ## Effects on a session -/

def launched [ContainerService σ] (session : Session σ ρ) (stateName : String)
    (definition : StateDefinition) (retryNumber : UInt32) : Session σ ρ :=
  let outcome := ContainerService.create definition.containerDefinition
    (definition.commands session.runner) definition.timeout session.service
  let containers := match outcome.1 with
    | .ok containers => containers
    | .error _ => []
  let stateRun :=
    StateRun.launched stateName definition containers retryNumber session.now.next
  { session with
    service := outcome.2
    now := session.now.next
    run := { session.run with history := session.run.history ++ [stateRun] } }

def polled [ContainerService σ] (session : Session σ ρ) (current : StateRun) : Session σ ρ :=
  let outcome := ContainerService.poll current.containerIds session.service
  let containers := match outcome.1 with
    | .ok answers => takeAnswers current.containers answers
    | .error _ => current.containers
  { session with
    service := outcome.2
    run := session.run.withCurrent { current with containers }.refreshed }

def awaited [ContainerService σ] (session : Session σ ρ) (current : StateRun) :
    List ContainerInstance :=
  if current.status = .started then
    match (ContainerService.poll current.containerIds session.service).1 with
    | .ok answers => takeAnswers current.containers answers
    | .error _ => current.containers
  else current.containers

theorem polled_run [ContainerService σ] {session : Session σ ρ} {current : StateRun}
    (going : current.status = .started) :
    (session.polled current).run =
      session.run.withCurrent { current with containers := session.awaited current }.refreshed := by
  rw [awaited, if_pos going]
  rfl

def stopped [ContainerService σ] (session : Session σ ρ) (current : StateRun) : Session σ ρ :=
  { session with
    service := (ContainerService.cancel current.containerIds session.service).2
    run := session.run.withCurrent { current with status := .cancelled } }

def withStatus (session : Session σ ρ) (status : WorkflowStatus) : Session σ ρ :=
  { session with run := { session.run with status } }

def touched (session : Session σ ρ) : Session σ ρ :=
  { session with
    now := session.now.next
    run := { session.run with updatedAt := session.now.next } }

def saved [RunRepository ρ] (session : Session σ ρ) :
    Except SessionFault Unit × Session σ ρ :=
  let outcome := RunRepository.update session.touched.run session.repository
  (outcome.1.mapError .repository, { session.touched with repository := outcome.2 })

def paused [ContainerService σ] (session : Session σ ρ) : Session σ ρ :=
  { session with service := ContainerService.pause session.service }

def cancelAnswer (session : Session σ ρ) (cancel : Nat → σ → Bool × σ) : Bool :=
  (cancel session.cancelAnswers.length session.service).1

def asked (session : Session σ ρ) (cancel : Nat → σ → Bool × σ) : Session σ ρ :=
  { session with
    service := (cancel session.cancelAnswers.length session.service).2
    cancelAnswers := session.cancelAnswers ++ [session.cancelAnswer cancel] }

def refusal (session : Session σ ρ) (operation : String) : SessionFault :=
  .invalidTransition operation session.run.status (session.run.current?.map StateRun.status)

def running? (session : Session σ ρ) : Option StateRun :=
  match session.run.current? with
  | some current => if current.status = .started then some current else none
  | none => none

theorem running?_eq_some_iff {session : Session σ ρ} {current : StateRun} :
    session.running? = some current ↔
      session.run.current? = some current ∧ current.status = .started := by
  unfold running?
  constructor
  · intro found
    split at found
    · split at found
      · cases found
        exact ⟨by assumption, by assumption⟩
      · simp at found
    · simp at found
  · rintro ⟨found, going⟩
    simp [found, going]

theorem running?_eq_none_iff {session : Session σ ρ} :
    session.running? = none ↔
      ∀ current, session.run.current? = some current → current.status ≠ .started := by
  unfold running?
  cases session.run.current? <;> simp

/-! ## Equations of the operations -/

theorem perform_setStatus (session : Session σ ρ) (status : WorkflowStatus) :
    (setStatus status : SessionM σ ρ Unit).perform session =
      (.ok (), session.withStatus status) := rfl

theorem perform_currentRun (session : Session σ ρ) :
    (currentRun : SessionM σ ρ StateRun).perform session =
      match session.run.current? with
      | none => (.error .noCurrentState, session)
      | some current => (.ok current, session) := by
  simp only [currentRun, perform_bind, perform_get]
  cases session.run.current? <;> rfl

theorem perform_persist [RunRepository ρ] (session : Session σ ρ) :
    (persist : SessionM σ ρ Unit).perform session = session.saved := by
  simp only [persist, readClock, saved, touched, perform_bind, perform_get, perform_set,
    perform_pure]
  cases (RunRepository.update { session.run with updatedAt := session.now.next }
    session.repository).1 <;> rfl

theorem perform_nextNumber (session : Session σ ρ) (number : UInt32) :
    (nextNumber number : SessionM σ ρ UInt32).perform session =
      if number.toNat + 1 < UInt32.size then (.ok (number + 1), session)
      else (.error .overflow, session) := by
  simp only [nextNumber]
  split <;> rfl

theorem perform_dispatch [ContainerService σ] (session : Session σ ρ) (stateName : String)
    (retryNumber : UInt32) :
    (dispatch stateName retryNumber : SessionM σ ρ Unit).perform session =
      match session.run.workflow.state? stateName with
      | none => (.error (.unknownState stateName), session)
      | some definition => (.ok (), session.launched stateName definition retryNumber) := by
  simp only [dispatch, perform_bind, perform_get]
  cases session.run.workflow.state? stateName <;> rfl

section Operations

variable [ContainerService σ] [RunRepository ρ] (session : Session σ ρ)

theorem perform_start :
    (start : SessionM σ ρ Unit).perform session =
      if session.run.status = .created then
        match session.run.workflow.state? session.run.workflow.startsAt with
        | none => (.error (.unknownState session.run.workflow.startsAt), session)
        | some definition =>
            ((session.launched session.run.workflow.startsAt definition 0).withStatus
              .started).saved
      else (.error (session.refusal "start an already-started workflow"), session) := by
  simp only [start, perform_bind, perform_get]
  split
  · simp only [perform_bind, perform_dispatch]
    cases session.run.workflow.state? session.run.workflow.startsAt with
    | none => rfl
    | some definition => simp only [perform_setStatus, perform_persist]
  · rfl

theorem perform_refresh :
    (refresh : SessionM σ ρ WorkflowStatus).perform session =
      if session.run.status.isTerminal then (.ok session.run.status, session)
      else match session.running? with
        | none => (.ok session.run.status, session)
        | some current =>
            ((session.polled current).saved.1.map (fun () => session.run.status),
              (session.polled current).saved.2) := by
  simp only [refresh, perform_bind, perform_get, running?]
  cases session.run.current? with
  | none => simp
  | some current =>
      dsimp only
      by_cases terminal : session.run.status.isTerminal = true
      · simp [terminal]
      · by_cases going : current.status = .started
        · have active : ¬(session.run.status.isTerminal || current.status ≠ .started) = true := by
            simp [terminal, going]
          rw [if_neg active, if_neg terminal, if_pos going]
          simp only [setRun, perform_bind, perform_set, perform_modify, perform_persist,
            perform_pure]
          unfold polled
          generalize saved (_ : Session σ ρ) = outcome
          rcases outcome with ⟨_ | _, _⟩ <;> rfl
        · simp [terminal, going]

theorem perform_next :
    (next : SessionM σ ρ Unit).perform session =
      match (refresh : SessionM σ ρ WorkflowStatus).perform session with
      | (.error fault, session) => (.error fault, session)
      | (.ok _, session) =>
          match session.run.current? with
          | none =>
              (.error (session.refusal "advance a non-terminated state or completed workflow"),
                session)
          | some current =>
              if session.run.status = .started ∧ current.status = .completed then
                match current.definition.successor with
                | none => (session.withStatus .completed).saved
                | some stateName =>
                    match session.run.workflow.state? stateName with
                    | none => (.error (.unknownState stateName), session)
                    | some definition => (session.launched stateName definition 0).saved
              else
                (.error
                    (session.refusal "advance a non-terminated state or completed workflow"),
                  session) := by
  simp only [next, perform_bind, perform_get]
  rcases (refresh : SessionM σ ρ WorkflowStatus).perform session with ⟨_ | _, after⟩
  · rfl
  · dsimp only
    cases after.run.current? with
    | none => rfl
    | some current =>
        dsimp only
        split
        · cases current.definition.successor with
          | none => simp only [perform_bind, perform_setStatus, perform_persist]
          | some stateName =>
              simp only [perform_bind, perform_dispatch]
              cases after.run.workflow.state? stateName with
              | none => rfl
              | some definition => simp only [perform_persist]
        · rfl

theorem perform_cancelState :
    (cancelState : SessionM σ ρ Unit).perform session =
      match session.running? with
      | none => (.ok (), session)
      | some current => (session.stopped current).saved := by
  simp only [cancelState, perform_bind, perform_get, running?]
  cases session.run.current? with
  | none => rfl
  | some current =>
      by_cases going : current.status = .started
      · simp only [going, if_true, setRun, perform_bind, perform_set, perform_modify,
          perform_persist]
        rfl
      · simp [going]

theorem perform_cancelWorkflow :
    (cancelWorkflow : SessionM σ ρ Unit).perform session =
      if session.run.status.isTerminal then
        (.error (.terminal session.run.status), session)
      else match (cancelState : SessionM σ ρ Unit).perform session with
        | (.error fault, session) => (.error fault, session)
        | (.ok (), session) => (session.withStatus .cancelled).saved := by
  simp only [cancelWorkflow, perform_bind, perform_get]
  split
  · rfl
  · simp only [perform_bind]
    rcases (cancelState : SessionM σ ρ Unit).perform session with ⟨_ | _, after⟩
    · rfl
    · simp only [perform_setStatus, perform_persist]

theorem perform_retry :
    (retry : SessionM σ ρ Unit).perform session =
      if session.run.status.isTerminal then
        (.error (.terminal session.run.status), session)
      else match session.run.current? with
        | none => (.error .noCurrentState, session)
        | some current =>
            if current.status = .failed ∨ current.status = .cancelled then
              if current.retryNumber.toNat + 1 < UInt32.size then
                match session.run.workflow.state? current.stateName with
                | none => (.error (.unknownState current.stateName), session)
                | some definition =>
                    (session.launched current.stateName definition
                      (current.retryNumber + 1)).saved
              else (.error .overflow, session)
            else (.ok (), session) := by
  simp only [retry, perform_bind, perform_get]
  split
  · rfl
  · simp only [perform_bind, perform_currentRun]
    cases session.run.current? with
    | none => rfl
    | some current =>
        dsimp only
        split
        · by_cases below : current.retryNumber.toNat + 1 < UInt32.size
          · simp only [perform_bind, perform_nextNumber, if_pos below, perform_dispatch]
            cases session.run.workflow.state? current.stateName with
            | none => rfl
            | some definition => simp only [perform_persist]
          · simp only [perform_bind, perform_nextNumber, if_neg below]
        · rfl

omit [ContainerService σ] in
theorem perform_failWorkflow :
    (failWorkflow : SessionM σ ρ Unit).perform session = (session.withStatus .failed).saved := by
  simp only [failWorkflow, perform_bind, perform_setStatus, perform_persist]

/-! ## Equations of the loops -/

omit [RunRepository ρ] in
theorem perform_pause :
    (pause : SessionM σ ρ Unit).perform session = (.ok (), session.paused) := rfl

omit [ContainerService σ] [RunRepository ρ] in
theorem perform_askCancel (cancel : Nat → σ → Bool × σ) :
    (askCancel cancel : SessionM σ ρ Bool).perform session =
      (.ok (session.cancelAnswer cancel), session.asked cancel) := rfl

theorem perform_waitForState_succ (polls : Nat) :
    (waitForState (polls + 1) : SessionM σ ρ (Option WorkflowStatus)).perform session =
      match (refresh : SessionM σ ρ WorkflowStatus).perform session with
      | (.error fault, session) => (.error fault, session)
      | (.ok status, session) =>
          match session.run.current? with
          | none => (.error .noCurrentState, session)
          | some current =>
              if current.status ≠ .started ∨ status.isTerminal then
                (.ok (some current.status), session)
              else
                (waitForState polls : SessionM σ ρ (Option WorkflowStatus)).perform
                  session.paused := by
  simp only [waitForState, perform_bind]
  rcases (refresh : SessionM σ ρ WorkflowStatus).perform session with ⟨_ | status, after⟩
  · rfl
  · simp only [perform_currentRun]
    cases after.run.current? with
    | none => rfl
    | some current =>
        dsimp only
        split
        · rfl
        · simp only [perform_bind, perform_pause]

def proceeded : Except SessionFault Unit × Session σ ρ :=
  match (refresh : SessionM σ ρ WorkflowStatus).perform session with
  | (.error fault, session) => (.error fault, session)
  | (.ok status, session) =>
      if status.isTerminal then (.ok (), session)
      else match session.run.current? with
        | none => (.error .noCurrentState, session)
        | some current =>
            match current.status with
            | .completed => (next : SessionM σ ρ Unit).perform session
            | .failed | .cancelled =>
                if current.retriesExhausted then (session.withStatus .failed).saved
                else (retry : SessionM σ ρ Unit).perform session
            | .created | .started => (.ok (), session.paused)

theorem perform_round (cancel : Nat → σ → Bool × σ) :
    (round cancel : SessionM σ ρ Unit).perform session =
      if session.cancelAnswer cancel then
        (cancelWorkflow : SessionM σ ρ Unit).perform (session.asked cancel)
      else (session.asked cancel).proceeded := by
  simp only [round, perform_bind, perform_askCancel]
  split
  · rfl
  · simp only [perform_bind, proceeded]
    rcases (refresh : SessionM σ ρ WorkflowStatus).perform (session.asked cancel) with
      ⟨_ | status, after⟩
    · rfl
    · dsimp only
      split
      · rfl
      · simp only [perform_bind, perform_currentRun]
        cases after.run.current? with
        | none => rfl
        | some current =>
            dsimp only
            cases current.status with
            | created | started | completed => rfl
            | failed | cancelled =>
                dsimp only
                split
                · rw [perform_failWorkflow]
                · rfl

theorem perform_round_declined {cancel : Nat → σ → Bool × σ}
    (declined : session.cancelAnswer cancel = false) :
    (round cancel : SessionM σ ρ Unit).perform session = (session.asked cancel).proceeded := by
  rw [perform_round, if_neg (by simp [declined])]

theorem perform_rounds_zero (cancel : Nat → σ → Bool × σ) :
    (rounds cancel 0 : SessionM σ ρ (Option WorkflowStatus)).perform session =
      (.ok (if session.run.status.isTerminal then some session.run.status else none),
        session) := rfl

theorem perform_rounds_succ (cancel : Nat → σ → Bool × σ) (count : Nat) :
    (rounds cancel (count + 1) : SessionM σ ρ (Option WorkflowStatus)).perform session =
      if session.run.status.isTerminal then (.ok (some session.run.status), session)
      else match (round cancel : SessionM σ ρ Unit).perform session with
        | (.error fault, session) => (.error fault, session)
        | (.ok (), session) =>
            (rounds cancel count : SessionM σ ρ (Option WorkflowStatus)).perform session := by
  simp only [rounds, perform_bind, perform_get]
  split
  · rfl
  · simp only [perform_bind]
    rcases (round cancel : SessionM σ ρ Unit).perform session with ⟨_ | _, _⟩ <;> rfl

theorem perform_runToEnd (cancel : Nat → σ → Bool × σ) (maxRounds : Nat) :
    (runToEnd cancel maxRounds : SessionM σ ρ (Option WorkflowStatus)).perform session =
      if session.run.status = .created then
        match (start : SessionM σ ρ Unit).perform { session with cancelAnswers := [] } with
        | (.error fault, session) => (.error fault, session)
        | (.ok (), session) =>
            (rounds cancel maxRounds : SessionM σ ρ (Option WorkflowStatus)).perform session
      else
        (rounds cancel maxRounds : SessionM σ ρ (Option WorkflowStatus)).perform
          { session with cancelAnswers := [] } := by
  simp only [runToEnd, perform_bind, perform_get, perform_modify]
  split
  · simp only [perform_bind]
    generalize (start : SessionM σ ρ Unit).perform _ = outcome
    rcases outcome with ⟨_ | _, _⟩ <;> rfl
  · rfl

/-! ## Operations with their answers -/

theorem operate_start :
    session.operate .start =
      (((start : SessionM σ ρ Unit).perform session).1.map (fun _ => .done),
        ((start : SessionM σ ρ Unit).perform session).2) :=
  perform_map start _ session

theorem operate_next :
    session.operate .next =
      (((next : SessionM σ ρ Unit).perform session).1.map (fun _ => .done),
        ((next : SessionM σ ρ Unit).perform session).2) :=
  perform_map next _ session

theorem operate_retry :
    session.operate .retry =
      (((retry : SessionM σ ρ Unit).perform session).1.map (fun _ => .done),
        ((retry : SessionM σ ρ Unit).perform session).2) :=
  perform_map retry _ session

theorem operate_cancelState :
    session.operate .cancelState =
      (((cancelState : SessionM σ ρ Unit).perform session).1.map (fun _ => .done),
        ((cancelState : SessionM σ ρ Unit).perform session).2) :=
  perform_map cancelState _ session

theorem operate_cancelWorkflow :
    session.operate .cancelWorkflow =
      (((cancelWorkflow : SessionM σ ρ Unit).perform session).1.map (fun _ => .done),
        ((cancelWorkflow : SessionM σ ρ Unit).perform session).2) :=
  perform_map cancelWorkflow _ session

theorem operate_refresh :
    session.operate .refresh =
      (((refresh : SessionM σ ρ WorkflowStatus).perform session).1.map .status,
        ((refresh : SessionM σ ρ WorkflowStatus).perform session).2) :=
  perform_map refresh _ session

theorem operate_waitForState (polls : Nat) :
    session.operate (.waitForState polls) =
      (((waitForState polls : SessionM σ ρ (Option WorkflowStatus)).perform session).1.map
          .ofStatus?,
        ((waitForState polls : SessionM σ ρ (Option WorkflowStatus)).perform session).2) :=
  perform_map (waitForState polls) _ session

theorem operate_runToEnd (cancel : Nat → σ → Bool × σ) (maxRounds : Nat) :
    session.operate (.runToEnd cancel maxRounds) =
      (((runToEnd cancel maxRounds : SessionM σ ρ (Option WorkflowStatus)).perform
          session).1.map .ofStatus?,
        ((runToEnd cancel maxRounds : SessionM σ ρ (Option WorkflowStatus)).perform
          session).2) :=
  perform_map (runToEnd cancel maxRounds) _ session

end Operations

end Session

end PrivateComputation
