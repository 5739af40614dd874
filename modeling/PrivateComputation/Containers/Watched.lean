import PrivateComputation.Containers.Local

/-!
A machine that keeps a record of the processes it is asked to start and to end, in front of any
other.
-/

namespace PrivateComputation

variable {π : Type}

inductive HostCall where
  | started (shell command : String) (process : Nat)
  | refused (shell command message : String)
  | killed (process : Nat)
  deriving DecidableEq

def HostCall.ofStart (shell command : String) : Except String Nat → HostCall
  | .ok process => .started shell command process
  | .error message => .refused shell command message

structure Watched (π : Type) where
  host : π
  /-- All calls so far, the latest one last. -/
  calls : List HostCall

namespace Watched

def record (watched : Watched π) (host : π) (call : HostCall) : Watched π :=
  ⟨host, watched.calls ++ [call]⟩

def start [ProcessHost π] (shell command : String) (watched : Watched π) :
    Except String Nat × Watched π :=
  let (outcome, host) := ProcessHost.start shell command watched.host
  (outcome, watched.record host (.ofStart shell command outcome))

instance [ProcessHost π] : ProcessHost (Watched π) where
  start := start
  check process watched :=
    let (status, host) := ProcessHost.check process watched.host
    (status, { watched with host })
  kill process watched :=
    watched.record (ProcessHost.kill process watched.host) (.killed process)
  now watched := ProcessHost.now watched.host
  pause watched := { watched with host := ProcessHost.pause watched.host }
  freshId watched :=
    let (id, host) := ProcessHost.freshId watched.host
    (id, { watched with host })

end Watched

def LocalContainers.unwatched (service : LocalContainers (Watched π)) : LocalContainers π :=
  ⟨service.shell, service.host.host, service.processes⟩

end PrivateComputation
