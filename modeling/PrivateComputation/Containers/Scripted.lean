import PrivateComputation.Containers.FailurePlan
import PrivateComputation.Containers.Service
import PrivateComputation.SortedMap

/-!
A container service that follows a script: containers launch started and take the scripted status
at their next poll.
-/

namespace PrivateComputation

structure ScriptedContainers where
  containers : SortedMap ContainerInstance
  /-- The status that single containers resolve to. -/
  scripted : SortedMap ContainerStatus
  /-- Containers that the service does not know any more. -/
  forgotten : List String
  defaultStatus : ContainerStatus
  -- Counted in 64 bits by the program, which no number of launches uses up.
  launches : Nat
  created : List (List String)
  cancelled : List String
  plan : FailurePlan

namespace ScriptedContainers

def fresh : ScriptedContainers := ⟨∅, ∅, [], .completed, 0, [], [], .none⟩

/-! ## The script -/

def setDefault (service : ScriptedContainers) (status : ContainerStatus) : ScriptedContainers :=
  { service with defaultStatus := status }

def setStatus (service : ScriptedContainers) (id : String) (status : ContainerStatus) :
    ScriptedContainers :=
  { service with scripted := service.scripted.insert id status }

/-- Scripts one status for every container, launched or still to launch. -/
def setAll (service : ScriptedContainers) (status : ContainerStatus) : ScriptedContainers :=
  (service.containers.keys.foldl (fun service id => service.setStatus id status) service).setDefault
    status

def forget (service : ScriptedContainers) (id : String) : ScriptedContainers :=
  { service with forgotten := id :: service.forgotten }

def inject (service : ScriptedContainers) (operation : ContainerOperation) (message : String)
    (limit : Option UInt32) : ScriptedContainers :=
  { service with plan := service.plan.inject operation message limit }

def clearFailures (service : ScriptedContainers) : ScriptedContainers :=
  { service with plan := .none }

/-! ## The service -/

def check (service : ScriptedContainers) (operation : ContainerOperation) :
    Option String × ScriptedContainers :=
  let (failure, plan) := service.plan.check operation
  (failure, { service with plan })

def launch (service : ScriptedContainers) : ContainerInstance × ScriptedContainers :=
  let number := service.launches + 1
  let container : ContainerInstance :=
    ⟨"mock-" ++ toString number, some ("10.0.0." ++ toString (number % 250 + 1)), .started, none⟩
  (container,
    { service with
      launches := number
      containers := service.containers.insert container.id container })

def launchAll : List String → ScriptedContainers → List ContainerInstance × ScriptedContainers
  | [], service => ([], service)
  | _ :: commands, service =>
      let (container, service) := service.launch
      let (others, service) := launchAll commands service
      (container :: others, service)

def resolve (container : ContainerInstance) (status : ContainerStatus) : ContainerInstance :=
  let exitCode : Option Int32 :=
    match status with
    | .completed => some 0
    | .failed => some 1
    | .unknown | .started => none
  { container with status, exitCode }

/-- Polls one container; a resolved one stays as it is. -/
def pollOne (service : ScriptedContainers) (id : String) :
    Option ContainerInstance × ScriptedContainers :=
  if service.forgotten.contains id then (none, service)
  else match service.containers.get? id with
    | none => (none, service)
    | some container =>
        let polled :=
          if container.status.isTerminal then container
          else resolve container ((service.scripted.get? id).getD service.defaultStatus)
        (some polled, { service with containers := service.containers.insert id polled })

def pollAll : List String → ScriptedContainers →
    List (Option ContainerInstance) × ScriptedContainers
  | [], service => ([], service)
  | id :: ids, service =>
      let (container, service) := service.pollOne id
      let (others, service) := pollAll ids service
      (container :: others, service)

def stop (service : ScriptedContainers) (id : String) :
    Option ContainerFault × ScriptedContainers :=
  let service := { service with cancelled := service.cancelled ++ [id] }
  if service.forgotten.contains id then (some (.notFound id), service)
  else match service.containers.get? id with
    | none => (some (.notFound id), service)
    | some container =>
        let stopped :=
          if container.status.isTerminal then container else { container with status := .failed }
        (none, { service with containers := service.containers.insert id stopped })

def stopAll : List String → ScriptedContainers → List (Option ContainerFault) × ScriptedContainers
  | [], service => ([], service)
  | id :: ids, service =>
      let (fault, service) := service.stop id
      let (others, service) := stopAll ids service
      (fault :: others, service)

def create (definition : String) (commands : List String) (service : ScriptedContainers) :
    Except ContainerFault (List ContainerInstance) × ScriptedContainers :=
  match service.check .create with
  | (some message, service) => (.error (.dispatch definition message), service)
  | (none, service) =>
      let (containers, service) :=
        launchAll commands { service with created := service.created ++ [commands] }
      (.ok containers, service)

def poll (ids : List String) (service : ScriptedContainers) :
    Except ContainerFault (List (Option ContainerInstance)) × ScriptedContainers :=
  match service.check .get with
  | (some message, service) => (.error (.poll message), service)
  | (none, service) =>
      let (containers, service) := pollAll ids service
      (.ok containers, service)

def cancel (ids : List String) (service : ScriptedContainers) :
    List (Option ContainerFault) × ScriptedContainers :=
  match service.check .cancel with
  | (some message, service) => (ids.map (fun id => some (.cancel id message)), service)
  | (none, service) => stopAll ids service

instance : ContainerService ScriptedContainers where
  create definition commands _ service := service.create definition commands
  poll := poll
  cancel := cancel
  pause service := service

end ScriptedContainers

end PrivateComputation
