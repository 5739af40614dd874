import PrivateComputation.Containers.Processes
import PrivateComputation.Shell.Execution

/-!
A machine that runs its processes itself. What a process will do is worked out when it is started
and comes to light as time passes.
-/

namespace PrivateComputation.Shell

structure HostedProcess where
  /-- When it was started, in microseconds. -/
  started : Nat
  execution : Execution
  killed : Option Nat

structure Host where
  files : FileTree
  clock : Nat
  /-- Microseconds between two polls. -/
  interval : Nat
  processes : List HostedProcess
  ids : Nat → String
  given : Nat

namespace HostedProcess

def status (process : HostedProcess) (now : Nat) : ProcessStatus :=
  if process.killed.isSome then .ended none
  else if now < process.started + process.execution.duration then .running
  else match process.execution.ending with
    | .exited code => .ended (some (Int32.ofNat code.toNat))
    | .killed => .ended none
    | .never => .running

def seen (process : HostedProcess) (now : Nat) : List Event :=
  let last := process.killed.getD now
  (process.execution.events.map (fun event =>
    { event with time := process.started + event.time })).filter (fun event => event.time ≤ last)

end HostedProcess

namespace Host

def ownProcess : Nat := 1000

def fresh (files : FileTree) (interval : Nat) (ids : Nat → String) : Host :=
  ⟨files, 0, interval, [], ids, 0⟩

def start (shell command : String) (host : Host) : Except String Nat × Host :=
  let number := host.processes.length
  match Execution.start host.files (ownProcess + 1 + number) ownProcess shell command with
  | .error fault => (.error fault.message, host)
  | .ok execution =>
      (.ok number,
        { host with
          files := execution.files
          processes := host.processes ++ [⟨host.clock, execution, none⟩] })

def check (process : Nat) (host : Host) : ProcessStatus × Host :=
  (match host.processes[process]? with
    | some hosted => hosted.status host.clock
    | none => .unknown,
    host)

def kill (process : Nat) (host : Host) : Host :=
  { host with
    processes := host.processes.modify process
      (fun hosted => { hosted with killed := some (hosted.killed.getD host.clock) }) }

def pause (host : Host) : Host := { host with clock := host.clock + host.interval }

def freshId (host : Host) : String × Host :=
  (host.ids host.given, { host with given := host.given + 1 })

instance : ProcessHost Host := ⟨start, check, kill, clock, pause, freshId⟩

def seen (host : Host) : List Effect :=
  let events := host.processes.flatMap (fun process => process.seen host.clock)
  (events.mergeSort (fun first second => first.time ≤ second.time)).map Event.effect

def output (host : Host) : String :=
  String.join (host.seen.map (fun effect =>
    match effect with
    | .output text => text
    | _ => ""))

def errors (host : Host) : String :=
  String.join (host.seen.map (fun effect =>
    match effect with
    | .errors text => text
    | _ => ""))

def signals (host : Host) : List Nat :=
  host.seen.filterMap (fun effect =>
    match effect with
    | .signal number => some number
    | _ => none)

end Host

end PrivateComputation.Shell
