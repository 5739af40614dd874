import PrivateComputation.Shell.Run

/-!
What becomes of a process that is started: how and when it ends, and what is seen of it until then.
-/

namespace PrivateComputation.Shell

inductive Ending where
  | exited (code : UInt8)
  | killed
  | never
  deriving DecidableEq

structure Execution where
  ending : Ending
  /-- Microseconds from the start to the end. -/
  duration : Nat
  events : List Event
  files : FileTree

inductive StartFault where
  | missing
  | notPermitted
  | tooLong
  | zeroByte
  deriving DecidableEq

def StartFault.message : StartFault → String
  | .missing => "No such file or directory (os error 2)"
  | .notPermitted => "Permission denied (os error 13)"
  | .tooLong => "Argument list too long (os error 7)"
  | .zeroByte => "nul byte found in provided data"

namespace Execution

/-- Microseconds that a program needs before it does anything. -/
def startupTime : Nat := 1000

def maxSteps : Nat := 4000

def argumentLimit : Nat := 131072

def machine (files : FileTree) (process parent : Nat) : Machine :=
  { dialect := .standard, process, above := [parent], bindings := ∅, exported := [],
    definitions := [], traps := [], strict := false, needsValues := false, constants := [],
    inDefinition := false, loops := 0, folder := "", arguments := [], status := 0,
    clock := startupTime, events := [], input := "", output := .output, errors := .errors,
    captured := "", files, jobs := [], latestJob := none }

def program? (files : FileTree) (name : String) : Except StartFault String :=
  if name.contains '/' then
    match programAt? name with
    | some program => .ok program
    | none => .error (if isOtherFile files name then .notPermitted else .missing)
  else if isInstalled name then .ok name
  else .error .missing

def endingOf (result : Except Stop Unit) (machine : Machine) : Ending :=
  match result with
  | .ok () | .error (.leaveLoop _ _) => .exited (UInt8.ofNat machine.status)
  | .error (.exit status) | .error (.leaveScript status) => .exited (UInt8.ofNat status)
  | .error (.killed _ _) => .killed
  | .error .endless => .never

def start (files : FileTree) (process parent : Nat) (program command : String) :
    Except StartFault Execution := do
  if (program ++ command).contains (Char.ofNat 0) then throw .zeroByte
  if argumentLimit ≤ command.utf8ByteSize then throw .tooLong
  let name ← program? files program
  let arguments := ["-c", command]
  let action := match dialectOf? name with
    | some dialect => runShell maxSteps { dialect with name := program } arguments
    | none => perform maxSteps (name :: arguments)
  let (result, machine) := action.run (machine files process parent)
  let events := machine.events.reverse.mergeSort (fun first second => first.time ≤ second.time)
  .ok ⟨endingOf result machine, machine.clock, events, machine.files⟩

end Execution

end PrivateComputation.Shell
