import PrivateComputation.Containers.Processes
import PrivateComputation.Containers.Service
import PrivateComputation.SortedMap

/-!
The container service of the local machine: every container is a process that a shell runs.
-/

namespace PrivateComputation

variable {π : Type}

structure LocalProcess where
  process : Nat
  /-- When it was started, in microseconds. -/
  started : Nat
  /-- Seconds that it may take. -/
  timeout : Option UInt32
  container : ContainerInstance
  deriving DecidableEq

namespace LocalProcess

def isFinished (launched : LocalProcess) : Bool := launched.container.status.isTerminal

def isOverdue (launched : LocalProcess) (now : Nat) : Bool :=
  launched.timeout.any (fun seconds => seconds.toNat * 1000000 ≤ now - launched.started)

def failed (launched : LocalProcess) : LocalProcess :=
  { launched with container := { launched.container with status := .failed } }

def ended (launched : LocalProcess) (exitCode : Option Int32) : LocalProcess :=
  let status : ContainerStatus := if exitCode = some 0 then .completed else .failed
  { launched with container := { launched.container with status, exitCode } }

def kill [ProcessHost π] (launched : LocalProcess) (host : π) : LocalProcess × π :=
  (launched.failed, ProcessHost.kill launched.process host)

/-- Asks how the process stands, unless that is settled. One that takes too long is ended. -/
def poll [ProcessHost π] (launched : LocalProcess) (host : π) : LocalProcess × π :=
  if launched.isFinished then (launched, host)
  else
    let (status, host) := ProcessHost.check launched.process host
    match status with
    | .ended exitCode => (launched.ended exitCode, host)
    | .unknown => (launched.failed, host)
    | .running =>
        if launched.isOverdue (ProcessHost.now host) then launched.kill host else (launched, host)

end LocalProcess

structure LocalContainers (π : Type) where
  shell : String
  host : π
  processes : SortedMap LocalProcess

namespace LocalContainers

def fresh (shell : String) (host : π) : LocalContainers π := ⟨shell, host, ∅⟩

/-- Starts processes in turn until one cannot be started. Gives their numbers with the times of
their start, and why the first one that is missing could not be started. -/
def startAll [ProcessHost π] (shell : String) :
    List String → π → (List (Nat × Nat) × Option String) × π
  | [], host => (([], none), host)
  | command :: commands, host =>
      match ProcessHost.start shell command host with
      | (.error message, host) => (([], some message), host)
      | (.ok process, host) =>
          let now := ProcessHost.now host
          let ((others, failure), host) := startAll shell commands host
          (((process, now) :: others, failure), host)

def killAll [ProcessHost π] (processes : List Nat) (host : π) : π :=
  processes.foldl (fun host process => ProcessHost.kill process host) host

def enrolAll [ProcessHost π] (timeout : Option UInt32) :
    List (Nat × Nat) → π → List LocalProcess × π
  | [], host => ([], host)
  | (process, started) :: others, host =>
      let (id, host) := ProcessHost.freshId host
      let container : ContainerInstance := ⟨id, some "127.0.0.1", .started, none⟩
      let (launched, host) := enrolAll timeout others host
      (⟨process, started, timeout, container⟩ :: launched, host)

def enter (processes : SortedMap LocalProcess) (launched : List LocalProcess) :
    SortedMap LocalProcess :=
  launched.foldl (fun processes launched => processes.insert launched.container.id launched)
    processes

/-- Launches a container for each command, or none at all. Containers that are known to have
finished are forgotten. -/
def create [ProcessHost π] (definition : String) (commands : List String)
    (timeout : Option UInt32) (service : LocalContainers π) :
    Except ContainerFault (List ContainerInstance) × LocalContainers π :=
  let ((started, failure), host) := startAll service.shell commands service.host
  match failure with
  | some message =>
      (.error (.dispatch definition message),
        { service with host := killAll (started.map Prod.fst) host })
  | none =>
      let (launched, host) := enrolAll timeout started host
      let remaining := service.processes.filter (fun launched => !launched.isFinished)
      (.ok (launched.map LocalProcess.container),
        { service with host, processes := enter remaining launched })

def update (service : LocalContainers π) (id : String)
    (change : LocalProcess → π → LocalProcess × π) :
    Option LocalProcess × LocalContainers π :=
  match service.processes.get? id with
  | none => (none, service)
  | some launched =>
      let (launched, host) := change launched service.host
      (some launched, { service with host, processes := service.processes.insert id launched })

def pollAll [ProcessHost π] :
    List String → LocalContainers π → List (Option ContainerInstance) × LocalContainers π
  | [], service => ([], service)
  | id :: ids, service =>
      let (launched, service) := service.update id LocalProcess.poll
      let (others, service) := pollAll ids service
      (launched.map LocalProcess.container :: others, service)

def stop [ProcessHost π] (launched : LocalProcess) (host : π) : LocalProcess × π :=
  if launched.isFinished then (launched, host) else launched.kill host

def stopAll [ProcessHost π] :
    List String → LocalContainers π → List (Option ContainerFault) × LocalContainers π
  | [], service => ([], service)
  | id :: ids, service =>
      let (launched, service) := service.update id stop
      let fault := if launched.isSome then none else some (ContainerFault.notFound id)
      let (others, service) := stopAll ids service
      (fault :: others, service)

instance [ProcessHost π] : ContainerService (LocalContainers π) where
  create := create
  poll ids service :=
    let (containers, service) := pollAll ids service
    (.ok containers, service)
  cancel := stopAll
  pause service := { service with host := ProcessHost.pause service.host }

def close [ProcessHost π] (service : LocalContainers π) : π :=
  let running := service.processes.values.filter (fun launched => !launched.isFinished)
  killAll (running.map LocalProcess.process) service.host

end LocalContainers

end PrivateComputation
