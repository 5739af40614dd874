import PrivateComputation.Containers.Service
import PrivateComputation.Repository.Basic

/-!
Driving a workflow run state by state. Every change is written to the repository before an
operation returns, so that a session can be left at any point and taken up from the repository.
-/

namespace PrivateComputation

variable {σ ρ : Type}

inductive SessionFault where
  | invalidTransition (operation : String) (workflow : WorkflowStatus)
      (state : Option WorkflowStatus)
  | terminal (status : WorkflowStatus)
  | unknownState (name : String)
  | noCurrentState
  | repository (fault : RepositoryFault)
  /-- No error of the program: a retry number went over, and the program stops there. -/
  | overflow
  deriving DecidableEq

def SessionFault.message : SessionFault → String
  | .invalidTransition operation workflow state =>
      "Cannot " ++ operation ++ ": workflow is " ++ workflow.name ++ ", current state is " ++
        (state.map WorkflowStatus.name).getD "none"
  | .terminal status => "Workflow is in terminal state " ++ status.name
  | .unknownState name => "Unknown state '" ++ name ++ "'"
  | .noCurrentState => "Workflow has no current state"
  | .repository fault => fault.message
  | .overflow => "attempt to add with overflow"

structure Surroundings (σ ρ : Type) where
  service : σ
  repository : ρ
  now : Instant

structure Session (σ ρ : Type) extends Surroundings σ ρ where
  run : WorkflowRun
  runner : String
  /-- What was answered to the question whether to cancel, in the latest run to the end. -/
  cancelAnswers : List Bool

/-- An operation of a session, which keeps what it did also where it fails. -/
abbrev SessionM (σ ρ : Type) := ExceptT SessionFault (StateM (Session σ ρ))

namespace Session

/-! ## Opening -/

def takeUp (run : WorkflowRun) (runner : String) (surroundings : Surroundings σ ρ) :
    Session σ ρ :=
  { surroundings with run, runner, cancelAnswers := [] }

def begin [RunRepository ρ] (id environmentId : String) (workflow : Workflow) (runner : String)
    (surroundings : Surroundings σ ρ) : Except SessionFault (Session σ ρ) × Surroundings σ ρ :=
  let surroundings := { surroundings with now := surroundings.now.next }
  let run := WorkflowRun.fresh id environmentId workflow surroundings.now
  let (result, repository) := RunRepository.create run surroundings.repository
  let surroundings := { surroundings with repository }
  match result with
  | .ok () => (.ok (takeUp run runner surroundings), surroundings)
  | .error fault => (.error (.repository fault), surroundings)

def load [RunRepository ρ] (id runner : String) (surroundings : Surroundings σ ρ) :
    Except SessionFault (Session σ ρ) :=
  match RunRepository.read id surroundings.repository with
  | .ok run => .ok (takeUp run runner surroundings)
  | .error fault => .error (.repository fault)

/-! ## Parts of operations -/

def readClock : SessionM σ ρ Instant := do
  let session ← get
  let now := session.now.next
  set { session with now }
  pure now

def setRun (run : WorkflowRun) : SessionM σ ρ Unit :=
  modify (fun session => { session with run })

def setStatus (status : WorkflowStatus) : SessionM σ ρ Unit :=
  modify (fun session => { session with run := { session.run with status } })

def persist [RunRepository ρ] : SessionM σ ρ Unit := do
  let updatedAt ← readClock
  let session ← get
  let run := { session.run with updatedAt }
  let (result, repository) := RunRepository.update run session.repository
  set { session with run, repository }
  match result with
  | .ok () => pure ()
  | .error fault => throw (.repository fault)

def invalidTransition {α : Type} (operation : String) : SessionM σ ρ α := do
  let run := (← get).run
  throw (.invalidTransition operation run.status (run.current?.map StateRun.status))

def currentRun : SessionM σ ρ StateRun := do
  match (← get).run.current? with
  | some current => pure current
  | none => throw .noCurrentState

def nextNumber (number : UInt32) : SessionM σ ρ UInt32 :=
  if number.toNat + 1 < UInt32.size then pure (number + 1) else throw .overflow

/-- Launches the containers of a state and appends the new state run. A launch that fails is a
failed run without containers. -/
def dispatch [ContainerService σ] (stateName : String) (retryNumber : UInt32) :
    SessionM σ ρ Unit := do
  let session ← get
  match session.run.workflow.state? stateName with
  | none => throw (.unknownState stateName)
  | some definition =>
      let (result, service) :=
        ContainerService.create definition.containerDefinition
          (definition.commands session.runner) definition.timeout session.service
      set { session with service }
      let containers := match result with
        | .ok containers => containers
        | .error _ => []
      let startedAt ← readClock
      let stateRun := StateRun.launched stateName definition containers retryNumber startedAt
      setRun { session.run with history := session.run.history ++ [stateRun] }

/-- Containers after a poll: each takes its answer, and one that is not known has failed. -/
def takeAnswers (containers : List ContainerInstance)
    (answers : List (Option ContainerInstance)) : List ContainerInstance :=
  match containers, answers with
  | container :: containers, answer :: answers =>
      answer.getD { container with status := .failed } :: takeAnswers containers answers
  | containers, [] => containers
  | [], _ => []

/-! ## Operations -/

def start [ContainerService σ] [RunRepository ρ] : SessionM σ ρ Unit := do
  let run := (← get).run
  if run.status = .created then
    dispatch run.workflow.startsAt 0
    setStatus .started
    persist
  else invalidTransition "start an already-started workflow"

/-- Polls the containers of the current state run while it is going on; gives the status of the
workflow. -/
def refresh [ContainerService σ] [RunRepository ρ] : SessionM σ ρ WorkflowStatus := do
  let session ← get
  match session.run.current? with
  | some current =>
      if session.run.status.isTerminal || current.status ≠ .started then pure session.run.status
      else
        let (result, service) := ContainerService.poll current.containerIds session.service
        set { session with service }
        let containers := match result with
          | .ok answers => takeAnswers current.containers answers
          | .error _ => current.containers
        setRun (session.run.withCurrent { current with containers }.refreshed)
        persist
        pure session.run.status
  | none => pure session.run.status

/-- Goes on from a completed state to its successor; the workflow is completed if there is none. -/
def next [ContainerService σ] [RunRepository ρ] : SessionM σ ρ Unit := do
  let _ ← refresh
  let run := (← get).run
  let refused : SessionM σ ρ Unit :=
    invalidTransition "advance a non-terminated state or completed workflow"
  match run.current? with
  | some current =>
      if run.status = .started ∧ current.status = .completed then
        match current.definition.successor with
        | none => setStatus .completed
        | some name => dispatch name 0
        persist
      else refused
  | none => refused

/-- Cancels the current state run while it is going on, without waiting for its containers;
otherwise does nothing. -/
def cancelState [ContainerService σ] [RunRepository ρ] : SessionM σ ρ Unit := do
  let session ← get
  match session.run.current? with
  | some current =>
      if current.status = .started then
        let (_, service) := ContainerService.cancel current.containerIds session.service
        set { session with service }
        setRun (session.run.withCurrent { current with status := .cancelled })
        persist
  | none => pure ()

def cancelWorkflow [ContainerService σ] [RunRepository ρ] : SessionM σ ρ Unit := do
  let status := (← get).run.status
  if status.isTerminal then throw (.terminal status)
  else
    cancelState
    setStatus .cancelled
    persist

/-- Runs a failed or cancelled state again; otherwise does nothing. -/
def retry [ContainerService σ] [RunRepository ρ] : SessionM σ ρ Unit := do
  let status := (← get).run.status
  if status.isTerminal then throw (.terminal status)
  else
    let current ← currentRun
    if current.status = .failed ∨ current.status = .cancelled then
      dispatch current.stateName (← nextNumber current.retryNumber)
      persist

def failWorkflow [RunRepository ρ] : SessionM σ ρ Unit := do
  setStatus .failed
  persist

def pause [ContainerService σ] : SessionM σ ρ Unit :=
  modify (fun session => { session with service := ContainerService.pause session.service })

/-! ## Loops -/

/-- Polls until the current state run is over and gives its status; nothing if that takes more than
some number of polls. -/
def waitForState [ContainerService σ] [RunRepository ρ] :
    Nat → SessionM σ ρ (Option WorkflowStatus)
  | 0 => pure none
  | polls + 1 => do
      let status ← refresh
      let current ← currentRun
      if current.status ≠ .started ∨ status.isTerminal then pure (some current.status)
      else
        pause
        waitForState polls

def askCancel (cancel : Nat → σ → Bool × σ) : SessionM σ ρ Bool := do
  let session ← get
  let (answer, service) := cancel session.cancelAnswers.length session.service
  set { session with service, cancelAnswers := session.cancelAnswers ++ [answer] }
  pure answer

def round [ContainerService σ] [RunRepository ρ] (cancel : Nat → σ → Bool × σ) :
    SessionM σ ρ Unit := do
  if ← askCancel cancel then cancelWorkflow
  else if (← refresh).isTerminal then pure ()
  else
    let current ← currentRun
    match current.status with
    | .completed => next
    | .failed | .cancelled => if current.retriesExhausted then failWorkflow else retry
    | .created | .started => pause

/-- Goes round until the workflow has ended; nothing if that takes more than some number of
rounds. -/
def rounds [ContainerService σ] [RunRepository ρ] (cancel : Nat → σ → Bool × σ) :
    Nat → SessionM σ ρ (Option WorkflowStatus)
  | 0 => do
      let status := (← get).run.status
      pure (if status.isTerminal then some status else none)
  | count + 1 => do
      let status := (← get).run.status
      if status.isTerminal then pure (some status)
      else
        round cancel
        rounds cancel count

/-- Starts a run if it has not started and drives it to its end. Failed states are retried while
they may be. Before every poll it asks whether to cancel. -/
def runToEnd [ContainerService σ] [RunRepository ρ] (cancel : Nat → σ → Bool × σ)
    (maxRounds : Nat) : SessionM σ ρ (Option WorkflowStatus) := do
  modify (fun session => { session with cancelAnswers := [] })
  if (← get).run.status = .created then start
  rounds cancel maxRounds

end Session

def SessionM.perform {α : Type} (operation : SessionM σ ρ α) (session : Session σ ρ) :
    Except SessionFault α × Session σ ρ :=
  operation.run session

end PrivateComputation
