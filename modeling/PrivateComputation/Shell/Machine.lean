import PrivateComputation.Files.Tree
import PrivateComputation.Shell.Command
import PrivateComputation.SortedMap

/-!
The state of a shell while it runs commands, and what it does to the outside.
-/

namespace PrivateComputation.Shell

structure Dialect where
  name : String
  extended : Bool
  deriving DecidableEq

def Dialect.standard : Dialect := ⟨"sh", false⟩

def Dialect.complaint (dialect : Dialect) (text : String) : String :=
  dialect.name ++ (if dialect.extended then ": line 1: " else ": 1: ") ++ text ++ "\n"

inductive Effect where
  | output (text : String)
  | errors (text : String)
  | signal (number : Nat)
  deriving DecidableEq

structure Event where
  time : Nat
  effect : Effect
  deriving DecidableEq

inductive Sink where
  | output
  | errors
  | nowhere
  | captured
  | file (path : String)
  deriving DecidableEq

inductive Stop where
  | exit (status : Nat)
  | killed (process signal : Nat)
  | endless
  /-- Leaves loops, the innermost first; of the last only the present round if it goes on. -/
  | leaveLoop (more : Nat) (again : Bool)
  | leaveScript (status : Nat)
  deriving DecidableEq

structure Job where
  process : Nat
  /-- When they end and with which status, if they do. -/
  ending : Option (Nat × Nat)

structure Machine where
  dialect : Dialect
  /-- The process itself and the processes above it, the nearest first. -/
  process : Nat
  above : List Nat
  bindings : SortedMap String
  exported : List String
  definitions : List (String × Command)
  /-- What is run when a signal comes; zero stands for the end of the shell. -/
  traps : List (Nat × String)
  /-- A command that fails ends the shell. -/
  strict : Bool
  needsValues : Bool
  constants : List String
  inDefinition : Bool
  loops : Nat
  /-- The folder that paths start from, if it is not the first one. -/
  folder : String
  arguments : List String
  status : Nat
  /-- Microseconds since the process was started. -/
  clock : Nat
  /-- What was seen outside, latest first. -/
  events : List Event
  input : String
  output : Sink
  errors : Sink
  captured : String
  files : FileTree
  jobs : List Job
  latestJob : Option Nat

abbrev ShellM := ExceptT Stop (StateM Machine)

def setStatus (status : Nat) : ShellM Unit := modify ({ · with status })

def passTime (microseconds : Nat) : ShellM Unit :=
  modify (fun machine => { machine with clock := machine.clock + microseconds })

def emit (effect : Effect) : ShellM Unit :=
  modify (fun machine => { machine with events := ⟨machine.clock, effect⟩ :: machine.events })

def Machine.pathFrom (machine : Machine) (path : String) : String :=
  if path = "" || path.startsWith "/" || machine.folder = "" then path
  else machine.folder ++ "/" ++ path

def appendFile (path text : String) : ShellM Unit :=
  modify (fun machine =>
    let content := (machine.files.read path).toOption.getD ByteArray.empty
    match machine.files.write path (content ++ text.toUTF8) with
    | .ok files => { machine with files }
    | .error _ => machine)

def writeTo (sink : Sink) (text : String) : ShellM Unit :=
  if text.isEmpty then pure ()
  else match sink with
    | .output => emit (.output text)
    | .errors => emit (.errors text)
    | .nowhere => pure ()
    | .captured => modify (fun machine => { machine with captured := machine.captured ++ text })
    | .file path => appendFile path text

def write (text : String) : ShellM Unit := do writeTo (← get).output text

def writeError (text : String) : ShellM Unit := do writeTo (← get).errors text

def complain (text : String) (status : Nat) : ShellM Unit := do
  writeError ((← get).dialect.complaint text)
  setStatus status

/-- Goes back to a machine from a process below it, of which the output, the status and the time
stay. -/
def leaveSubshell (before : Machine) : ShellM Unit :=
  modify (fun after =>
    { before with
      status := after.status
      clock := after.clock
      events := after.events
      captured := after.captured
      files := after.files })

def inSubshell (action : ShellM Unit) : ShellM Unit := do
  let before ← get
  try
    action
    leaveSubshell before
  catch stop =>
    leaveSubshell before
    match stop with
    | .exit status | .leaveScript status => setStatus status
    | .leaveLoop _ _ => pure ()
    | stop => throw stop

def tested (action : ShellM Unit) : ShellM Unit := do
  let before ← get
  try
    modify ({ · with strict := false })
    action
  finally
    modify ({ · with strict := before.strict })

def checkStrict : ShellM Unit := do
  let machine ← get
  if machine.strict && machine.status ≠ 0 then throw (.exit machine.status)

def capture (action : ShellM Unit) : ShellM String := do
  let before ← get
  set { before with output := .captured, captured := "" }
  inSubshell action
  let after ← get
  set { after with output := before.output, captured := before.captured }
  pure after.captured

def inBackground (action : ShellM Unit) : ShellM Unit := do
  let before ← get
  let ending ←
    try
      inSubshell (do
        modify ({ · with input := "", jobs := [] })
        action)
      let after ← get
      pure (some (after.clock, after.status))
    catch
      | .endless => pure none
      | stop => throw stop
  let process := 100 * before.process + before.jobs.length + 2
  modify (fun after =>
    { before with
      status := 0
      events := after.events
      captured := after.captured
      files := after.files
      jobs := ⟨process, ending⟩ :: before.jobs
      latestJob := some process })

def waitForAll : ShellM Unit := do
  let machine ← get
  match machine.jobs.mapM Job.ending with
  | none => throw .endless
  | some endings =>
      set
        { machine with
          clock := (endings.map Prod.fst).foldl max machine.clock
          jobs := []
          status := 0 }

def waitFor (process : Nat) : ShellM Unit := do
  let machine ← get
  match machine.jobs.find? (fun job => job.process == process) with
  | none => setStatus 127
  | some job =>
      match job.ending with
      | none => throw .endless
      | some (time, status) => set { machine with clock := max machine.clock time, status }

def endJob (process signal : Nat) : ShellM Unit :=
  modify (fun machine =>
    { machine with
      jobs := machine.jobs.map (fun job =>
        let isOver := job.ending.any (fun ending => ending.1 ≤ machine.clock)
        if job.process = process && !isOver then
          { job with ending := some (machine.clock, 128 + signal) }
        else job) })

def inPipe (left right : ShellM Unit) : ShellM Unit := do
  let start := (← get).clock
  let text ← capture left
  let between := (← get).clock
  inSubshell (do
    modify ({ · with input := text, clock := start })
    right)
  modify (fun machine => { machine with clock := max between machine.clock })

end PrivateComputation.Shell
