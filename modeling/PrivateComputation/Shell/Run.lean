import PrivateComputation.Shell.Arithmetic
import PrivateComputation.Shell.Condition
import PrivateComputation.Shell.Expansion
import PrivateComputation.Shell.Pattern
import PrivateComputation.Shell.Printing
import PrivateComputation.Shell.Signal

/-!
Running commands. A number of steps bounds how deep a run goes; a run that needs more counts as one
that does not end.
-/

namespace PrivateComputation.Shell

/-! ## Programs -/

def dialectOf? (name : String) : Option Dialect :=
  if name = "sh" ∨ name = "dash" then some ⟨name, false⟩
  else if name = "bash" then some ⟨name, true⟩
  else none

def installedPrograms : List String :=
  ["true", "false", "echo", "printf", "sleep", "test", "[", "kill", "cat", "touch", "mkdir", "rm",
    "env", "timeout", "nohup", "nice", "ls", "pwd"]

def isInstalled (name : String) : Bool :=
  installedPrograms.contains name || (dialectOf? name).isSome

def shellCommands : List String :=
  [":", "exit", "return", "exec", "eval", "export", "unset", "shift", "read", "wait", "break",
    "continue", "command", "set", "trap", ".", "local", "readonly", "cd", "pwd", "umask", "type",
    "hash", "times", "ulimit", "jobs", "alias", "unalias", "getopts", "bg", "fg", "true", "false",
    "echo", "printf", "test", "[", "kill"]

def systemFolders : List String :=
  ["/", "/bin", "/dev", "/etc", "/home", "/lib", "/opt", "/proc", "/root", "/sys", "/tmp", "/usr",
    "/usr/bin", "/usr/lib", "/var", "/var/tmp"]

def systemFiles : List String := ["/dev/null", "/etc/group", "/etc/hosts", "/etc/passwd"]

def programAt? (path : String) : Option String :=
  ["/bin/", "/usr/bin/"].findSome? (fun folder =>
    let name := String.ofList (path.toList.drop folder.length)
    if path.startsWith folder && isInstalled name then some name else none)

def isOtherFile (files : FileTree) (path : String) : Bool :=
  path.contains '/' &&
    ((files.entry? path).isSome ||
      (systemFolders ++ systemFiles).contains path)

def runSleep (arguments : List String) : ShellM Unit := do
  match arguments.find? (fun argument => (delay? argument).isNone) with
  | some wrong =>
      writeError ("sleep: invalid time interval '" ++ wrong ++
        "'\nTry 'sleep --help' for more information.\n")
      setStatus 1
  | none =>
      if arguments.isEmpty then
        writeError "sleep: missing operand\nTry 'sleep --help' for more information.\n"
        setStatus 1
      else match totalDelay (arguments.filterMap delay?) with
        | .forever => throw .endless
        | .finite time =>
            passTime time
            setStatus 0

def sendSignal (signal : Nat) (target : String) : ShellM Unit := do
  let machine ← get
  match readDecimal target.toList with
  | none => complain ("kill: Illegal number: " ++ target) 2
  | some process =>
      setStatus 0
      let action := signalAction signal
      if machine.jobs.any (fun job => job.process == process) then
        if action = .terminate then endJob process signal
      else if machine.above.getLast? = some process then
        if action = .terminate then emit (.signal signal)
      else if process = machine.process ∨ machine.above.contains process then
        match action with
        | .terminate => throw (.killed process signal)
        | .suspend => throw .endless
        | .ignore => pure ()
      else complain "kill: No such process" 1

def runKill (arguments : List String) : ShellM Unit := do
  if arguments.head? = some "-l" then setStatus 0
  else match killTargets? arguments with
  | some (signal, target :: targets) => (target :: targets).forM (sendSignal signal)
  | some (_, []) => complain "kill: Usage: kill [-s sigspec | -signum | -sigspec] [pid | job]..." 2
  | none => complain ("kill: invalid signal number or name: " ++ arguments.headD "") 2

def runTest (name : String) (arguments : List String) : ShellM Unit := do
  let machine ← get
  let look (path : String) : Option DirectoryEntry :=
    if systemFolders.contains path then some .folder
    else if systemFiles.contains path || (programAt? path).isSome then some (.file ByteArray.empty)
    else machine.files.entry? (machine.pathFrom path)
  let isProgram (path : String) : Bool := (programAt? path).isSome
  match condition machine.dialect.extended look isProgram arguments with
  | .ok holds => setStatus (if holds then 0 else 1)
  | .error message => complain (name ++ ": " ++ message) 2

def runBracket (opening closing : String) (arguments : List String) : ShellM Unit := do
  if arguments.getLast? = some closing then runTest opening arguments.dropLast
  else complain (opening ++ ": missing " ++ closing) 2

def runPrintf (arguments : List String) : ShellM Unit := do
  match if arguments.head? = some "--" then arguments.tail else arguments with
  | [] => complain "printf: usage: printf format [arg ...]" 2
  | format :: arguments =>
      let printed := printFormat format arguments
      write printed.text
      setStatus 0
      printed.notNumbers.forM (fun argument =>
        complain ("printf: " ++ argument ++ ": expected numeric value") 1)

def runEcho (arguments : List String) : ShellM Unit := do
  write (echoText (!(← get).dialect.extended) arguments)
  setStatus 0

def complainAbout (program path : String) (fault : FileFault) : ShellM Unit := do
  let reason := match fault with
    | .missing => "No such file or directory"
    | .exists => "File exists"
    | .notDirectory => "Not a directory"
    | .isDirectory => "Is a directory"
    | .nameTooLong => "File name too long"
    | .notText => "Invalid argument"
  writeError (program ++ ": " ++ path ++ ": " ++ reason ++ "\n")
  setStatus 1

def runCat (arguments : List String) : ShellM Unit := do
  setStatus 0
  if arguments.isEmpty then write (← get).input
  arguments.forM (fun path => do
    let machine ← get
    if path = "-" then write machine.input
    else if path = "/dev/null" then pure ()
    else match machine.files.readText (machine.pathFrom path) with
      | .ok text => write text
      | .error fault => complainAbout "cat" path fault)

def runTouch (arguments : List String) : ShellM Unit := do
  setStatus 0
  arguments.forM (fun path => do
    let machine ← get
    let place := machine.pathFrom path
    match machine.files.entry? place with
    | some _ => pure ()
    | none =>
        match machine.files.write place ByteArray.empty with
        | .ok files => set { machine with files }
        | .error fault => complainAbout "touch" path fault)

def runMkdir (arguments : List String) : ShellM Unit := do
  setStatus 0
  (arguments.filter (fun argument => !argument.startsWith "-")).forM (fun path => do
    let machine ← get
    let place := machine.pathFrom path
    if (machine.files.entry? place).isNone then
      set { machine with files := machine.files.putAt place .folder }
    else if !arguments.contains "-p" then
      writeError ("mkdir: cannot create directory '" ++ path ++ "': File exists\n")
      setStatus 1)

def runRm (arguments : List String) : ShellM Unit := do
  setStatus 0
  let force := arguments.any (fun argument => argument.startsWith "-" && argument.contains 'f')
  (arguments.filter (fun argument => !argument.startsWith "-")).forM (fun path => do
    let machine ← get
    match machine.files.resolve (machine.pathFrom path) with
    | .ok names =>
        if (machine.files.entryAt? names).isSome then
          set { machine with files := machine.files.remove names }
        else if !force then
          writeError ("rm: cannot remove '" ++ path ++ "': No such file or directory\n")
          setStatus 1
    | .error _ => if !force then setStatus 1)

def assignVariable (name value : String) : ShellM Unit := do
  if (← get).constants.contains name then
    complain (name ++ ": is read only") 2
    throw (.exit 2)
  else modify (fun machine => { machine with bindings := machine.bindings.insert name value })

def argumentName (argument : String) : String :=
  String.ofList (argument.toList.takeWhile (· ≠ '='))

def runAssign (arguments : List String) : ShellM Unit := do
  setStatus 0
  arguments.forM (fun argument => do
    let name := argumentName argument
    if name.length < argument.length then
      assignVariable name (String.ofList (argument.toList.drop (name.length + 1))))

def runExport (arguments : List String) : ShellM Unit := do
  runAssign arguments
  modify (fun machine =>
    { machine with exported := arguments.map argumentName ++ machine.exported })

def runReadonly (arguments : List String) : ShellM Unit := do
  runAssign arguments
  modify (fun machine =>
    { machine with constants := arguments.map argumentName ++ machine.constants })

def runLocal (arguments : List String) : ShellM Unit := do
  if (← get).inDefinition then runAssign arguments
  else
    complain "local: not in a function" 2
    throw (.exit 2)

/-- Whether an option turns a letter on or off; nothing if it does neither. -/
def turns? (letter : Char) (option : List Char) : Option Bool :=
  match option with
  | '-' :: letters => if letters.contains letter then some true else none
  | '+' :: letters => if letters.contains letter then some false else none
  | _ => none

def optionLetter (name : String) : String :=
  match name with
  | "errexit" => "e"
  | "nounset" => "u"
  | _ => ""

def turnOptions (option : String) : ShellM Unit :=
  modify (fun machine =>
    { machine with
      strict := (turns? 'e' option.toList).getD machine.strict
      needsValues := (turns? 'u' option.toList).getD machine.needsValues })

def setOptions : List String → ShellM Unit
  | [] => pure ()
  | "--" :: arguments => modify ({ · with arguments })
  | "-o" :: name :: rest => do
      turnOptions ("-" ++ optionLetter name)
      setOptions rest
  | "+o" :: name :: rest => do
      turnOptions ("+" ++ optionLetter name)
      setOptions rest
  | argument :: rest =>
      if argument.startsWith "-" || argument.startsWith "+" then do
        turnOptions argument
        setOptions rest
      else modify ({ · with arguments := argument :: rest })

def runSet (arguments : List String) : ShellM Unit := do
  setOptions arguments
  setStatus 0

def runTrap (arguments : List String) : ShellM Unit := do
  setStatus 0
  let (action, names) := match arguments.dropWhile (· == "--") with
    | [] => (none, [])
    | [name] => (none, [name])
    | "-" :: names => (none, names)
    | first :: names =>
        if (readDecimal first.toList).isSome then (none, first :: names) else (some first, names)
  names.forM (fun name =>
    match signalNumber? name with
    | none => complain ("trap: " ++ name ++ ": bad trap") 1
    | some number =>
        modify (fun machine =>
          let others := machine.traps.filter (fun trap => trap.1 ≠ number)
          { machine with
            traps := (action.map (fun action => (number, action))).toList ++ others }))

def runRead (arguments : List String) : ShellM Unit := do
  let machine ← get
  let line := machine.input.toList.takeWhile (· ≠ '\n')
  let rest := (machine.input.toList.drop line.length).drop 1
  let name := (arguments.find? (fun argument => !argument.startsWith "-")).getD "REPLY"
  set
    { machine with
      input := String.ofList rest
      bindings := machine.bindings.insert name (String.ofList line)
      status := if line.length < machine.input.length then 0 else 1 }

def leaveWith (command : String) (stop : Nat → Stop) (arguments : List String) : ShellM Unit := do
  match arguments with
  | [] => throw (stop (← get).status)
  | argument :: _ =>
      match readDecimal argument.toList with
      | some status => throw (stop status)
      | none =>
          complain (command ++ ": Illegal number: " ++ argument) 2
          throw (.exit 2)

/-- Leaves as many loops as a command names; outside of loops nothing happens. -/
def leaveLoops (again : Bool) (arguments : List String) : ShellM Unit := do
  let loops := (← get).loops
  let wanted := (arguments.head?.bind (fun argument => readDecimal argument.toList)).getD 1
  match min wanted loops with
  | 0 => setStatus 0
  | more + 1 => throw (.leaveLoop more again)

def runShift (arguments : List String) : ShellM Unit := do
  let machine ← get
  let count := (arguments.head?.bind (fun argument => readDecimal argument.toList)).getD 1
  if count ≤ machine.arguments.length then
    set { machine with arguments := machine.arguments.drop count, status := 0 }
  else
    complain "shift: can't shift that many" 2
    throw (.exit 2)

def runWait (arguments : List String) : ShellM Unit := do
  if arguments.isEmpty then waitForAll
  else arguments.forM (fun argument =>
    match readDecimal argument.toList with
    | some process => waitFor process
    | none => complain ("wait: No such job: " ++ argument) 2)

def runCd (arguments : List String) : ShellM Unit := do
  let machine ← get
  match arguments.filter (· ≠ "--") with
  | [] => set { machine with folder := "/root", status := 0 }
  | path :: _ =>
      let place := machine.pathFrom path
      let isThere := systemFolders.contains path ||
        ((machine.files.resolve place).toOption.map machine.files.isFolder).getD false
      if isThere && path ≠ "" then set { machine with folder := place, status := 0 }
      else complain ("cd: can't cd to " ++ path) 2

def whereIs? (machine : Machine) (name : String) : Option String :=
  if (machine.definitions.lookup name).isSome || shellCommands.contains name ||
      Command.reservedWords.contains name then
    some name
  else if name.contains '/' then if (programAt? name).isSome then some name else none
  else if isInstalled name then some ("/usr/bin/" ++ name)
  else none

def runType (arguments : List String) : ShellM Unit := do
  setStatus 0
  arguments.forM (fun name => do
    let machine ← get
    match whereIs? machine name with
    | some place =>
        write (name ++ (if place.contains '/' then " is " ++ place
          else if (machine.definitions.lookup name).isSome then " is a shell function"
          else if shellCommands.contains name then " is a shell builtin"
          else " is a shell keyword") ++ "\n")
    | none =>
        writeError (name ++ ": not found\n")
        setStatus 127)

def runWhere (arguments : List String) : ShellM Unit := do
  match arguments.head?.bind (whereIs? (← get)) with
  | some place =>
      write (place ++ "\n")
      setStatus 0
  | none => setStatus 127

def shownNames (files : FileTree) (names : List String) : List String :=
  (files.entries.keys.filterMap (FileTree.childName? names)).filter
    (fun name => !name.startsWith ".")

def runLs (arguments : List String) : ShellM Unit := do
  setStatus 0
  let paths := arguments.filter (fun argument => !argument.startsWith "-")
  (if paths.isEmpty then ["."] else paths).forM (fun path => do
    let machine ← get
    let place := machine.pathFrom path
    match machine.files.resolve place, machine.files.entry? place with
    | .ok names, some .folder =>
        write (String.join ((shownNames machine.files names).map (· ++ "\n")))
    | _, some (.file _) => write (path ++ "\n")
    | _, _ =>
        writeError ("ls: cannot access '" ++ path ++ "': No such file or directory\n")
        setStatus 2)

def runPlain? (name : String) (arguments : List String) : Option (ShellM Unit) :=
  match name with
  | ":" | "true" => some (setStatus 0)
  | "false" => some (setStatus 1)
  | "exit" => some (leaveWith name .exit arguments)
  | "return" => some (leaveWith name .leaveScript arguments)
  | "break" => some (leaveLoops false arguments)
  | "continue" => some (leaveLoops true arguments)
  | "echo" => some (runEcho arguments)
  | "printf" => some (runPrintf arguments)
  | "test" => some (runTest name arguments)
  | "[" => some (runBracket "[" "]" arguments)
  | "sleep" => some (runSleep arguments)
  | "kill" => some (runKill arguments)
  | "cat" => some (runCat arguments)
  | "touch" => some (runTouch arguments)
  | "mkdir" => some (runMkdir arguments)
  | "rm" => some (runRm arguments)
  | "export" => some (runExport arguments)
  | "readonly" => some (runReadonly arguments)
  | "local" => some (runLocal arguments)
  | "cd" => some (runCd arguments)
  | "pwd" => some (do
      write ((← get).folder ++ "\n")
      setStatus 0)
  | "type" => some (runType arguments)
  | "ls" => some (runLs arguments)
  | "umask" | "hash" | "times" | "ulimit" | "jobs" | "alias" | "unalias" => some (setStatus 0)
  | "getopts" => some (setStatus 1)
  | "bg" | "fg" => some (complain (name ++ ": No current job") 2)
  | "set" => some (runSet arguments)
  | "trap" => some (runTrap arguments)
  | "unset" =>
      some (do
        modify (fun machine =>
          { machine with
            bindings := arguments.foldl (fun bindings name => bindings.erase name)
              machine.bindings })
        setStatus 0)
  | "shift" => some (runShift arguments)
  | "read" => some (runRead arguments)
  | "wait" => some (runWait arguments)
  | _ => none

def notFound (name : String) : ShellM Unit := do
  let machine ← get
  if isOtherFile machine.files name then complain (name ++ ": Permission denied") 126
  else if machine.dialect.extended then
    complain (name ++
      (if name.contains '/' then ": No such file or directory" else ": command not found")) 127
  else complain (name ++ ": not found") 127

/-! ## Redirections -/

def setSink (descriptor : Nat) (sink : Sink) : ShellM Unit :=
  modify (fun machine =>
    if descriptor = 1 then { machine with output := sink }
    else if descriptor = 2 then { machine with errors := sink }
    else machine)

def openSink (path : String) (fresh : Bool) : ShellM (Option Sink) := do
  let machine ← get
  if path = "/dev/null" then pure (some .nowhere)
  else if path = "/dev/stdout" then pure (some machine.output)
  else if path = "/dev/stderr" then pure (some machine.errors)
  else
    let place := machine.pathFrom path
    let content :=
      if fresh then ByteArray.empty
      else (machine.files.read place).toOption.getD ByteArray.empty
    match machine.files.write place content with
    | .ok files =>
        set { machine with files }
        pure (some (.file place))
    | .error _ => pure none

def redirect (descriptor : Nat) (kind : RedirectionKind) (target : String) : ShellM Bool := do
  let machine ← get
  match kind with
  | .duplicate =>
      setSink descriptor
        (if target = "1" then machine.output
          else if target = "2" then machine.errors
          else .nowhere)
      pure true
  | .read =>
      if target = "/dev/null" then
        set { machine with input := "" }
        pure true
      else match machine.files.readText (machine.pathFrom target) with
        | .ok input =>
            set { machine with input }
            pure true
        | .error _ =>
            complain ("cannot open " ++ target ++ ": No such file") 2
            pure false
  | .write | .append =>
      match ← openSink target (kind == .write) with
      | some sink =>
          setSink descriptor sink
          pure true
      | none =>
          complain ("cannot create " ++ target ++ ": Directory nonexistent") 2
          pure false

/-! ## Commands -/

def deathNotice (signal : Nat) : String :=
  match signal with
  | 1 => "Hangup\n"
  | 2 => "\n"
  | 3 => "Quit\n"
  | 9 => "Killed\n"
  | 15 => "Terminated\n"
  | _ => ""

inductive ScriptSource where
  | text (script : String)
  | file (path : String)
  | input
  | missing

structure ShellStart where
  strict : Bool
  source : ScriptSource
  arguments : List String

/-- Reads the arguments of a shell, after options that said how strict it is and whether its
commands are an argument or come from the input. -/
def shellStart (name : String) (strict asText fromInput : Bool) : List String → ShellStart
  | [] => ⟨strict, if asText then .missing else .input, [name]⟩
  | argument :: rest =>
      let letters := argument.toList
      if (argument.startsWith "-" || argument.startsWith "+") && argument ≠ "--" then
        shellStart name ((turns? 'e' letters).getD strict) (asText || letters.contains 'c')
          (fromInput || letters.contains 's') rest
      else
        match if argument = "--" then rest else argument :: rest with
        | [] => ⟨strict, if asText then .missing else .input, [name]⟩
        | first :: others =>
            if asText then
              ⟨strict, .text first, if others.isEmpty then [name] else others⟩
            else if fromInput then ⟨strict, .input, name :: first :: others⟩
            else ⟨strict, .file first, first :: others⟩

def refuseParameter (name reason : String) : ShellM Fields := do
  complain (name ++ ": " ++ reason) 2
  throw (.exit 2)

def becomeShell (dialect : Dialect) (start : ShellStart) : ShellM Unit :=
  modify (fun machine =>
    { machine with
      dialect := { dialect with name := start.arguments.headD dialect.name }
      bindings := machine.bindings.filterKeys machine.exported.contains
      definitions := []
      traps := []
      strict := start.strict
      needsValues := false
      constants := []
      inDefinition := false
      loops := 0
      arguments := start.arguments.tail
      jobs := []
      latestJob := none })

def refuseScript (dialect : Dialect) (path : String) (fault : FileFault) : ShellM Unit := do
  let missing := fault = .missing || fault = .notDirectory
  if dialect.extended then
    writeError (dialect.name ++ ": " ++ path ++ ": " ++
      (if missing then "No such file or directory" else "Is a directory") ++ "\n")
    setStatus (if missing then 127 else 126)
  else if missing then
    writeError (dialect.name ++ ": 0: cannot open " ++ path ++ ": No such file\n")
    setStatus 2
  else setStatus 0

mutual

def run : Nat → Command → ShellM Unit
  | 0, _ => throw .endless
  | steps + 1, command =>
      match command with
      | .nothing => pure ()
      | .simple words redirections => do
          match (← get).compared? words with
          | some (subject, wanted, pattern) => runMatch steps subject wanted pattern
          | none => runSimple steps words redirections
          checkStrict
      | .redirected body redirections => do
          let before ← get
          if ← redirectAll steps redirections then run steps body
          modify (fun after =>
            { after with input := before.input, output := before.output, errors := before.errors })
      | .subshell body => do
          try
            inSubshell (do
              modify (fun machine =>
                { machine with traps := machine.traps.filter (fun trap => trap.2 = "") })
              runToEnd steps (run steps body))
          catch
            | .killed process signal => receiveSignal steps process signal
            | stop => throw stop
          checkStrict
      | .negate body => do
          tested (run steps body)
          setStatus (if (← get).status = 0 then 1 else 0)
      | .pipe left right => do
          inPipe (run steps left) (run steps right)
          checkStrict
      | .both left right => do
          tested (run steps left)
          if (← get).status = 0 then run steps right
      | .either left right => do
          tested (run steps left)
          if (← get).status ≠ 0 then run steps right
      | .sequence first second => do
          run steps first
          run steps second
      | .background body => inBackground (run steps body)
      | .conditional test body otherwise => do
          tested (run steps test)
          if (← get).status = 0 then do
            setStatus 0
            run steps body
          else do
            setStatus 0
            run steps otherwise
      | .loop onSuccess test body => do
          let goOn ← runRound steps (do
            tested (run steps test)
            if decide ((← get).status = 0) = onSuccess then
              run steps body
              pure true
            else
              setStatus 0
              pure false)
          if goOn then run steps (.loop onSuccess test body)
      | .each name words body => do
          let values ← match words with
            | some words => expandAll steps words
            | none => do pure (← get).arguments
          setStatus 0
          let _ ← values.foldlM
            (fun goOn value => do
              if goOn then
                assignVariable name value
                runRound steps (do
                  run steps body
                  pure true)
              else pure false)
            true
      | .choose subject branches => do
          let text ← expandText steps subject
          let chosen ← chooseBranch steps text branches
          setStatus 0
          run steps (chosen.getD .nothing)
      | .define name body => do
          modify (fun machine =>
            { machine with definitions := (name, body) :: machine.definitions })
          setStatus 0

def chooseBranch : Nat → String → List (List Word × Command) → ShellM (Option Command)
  | 0, _, _ => throw .endless
  | steps + 1, text, branches =>
      branches.foldlM
        (fun chosen (words, body) => do
          if chosen.isSome then pure chosen
          else
            let alike ← words.anyM (fun word => do
              pure (Pattern.accepts (.ofChars (← expandPattern steps word)) text.toList))
            pure (if alike then some body else none))
        none

/-- The characters of a word that is a pattern; quoted ones have no special meaning. -/
def expandPattern : Nat → Word → ShellM (List PatternChar)
  | 0, _ => throw .endless
  | steps + 1, word =>
      word.foldlM
        (fun chars symbol => do
          let special := match symbol with
            | .plain _ => true
            | .parameter _ quoted | .command _ quoted => !quoted
            | _ => false
          let text ← expandText steps [symbol]
          pure (chars ++ text.toList.map (fun c => (c, special))))
        []

def runRound : Nat → ShellM Bool → ShellM Bool
  | 0, _ => throw .endless
  | _ + 1, round => do
      let loops := (← get).loops
      modify ({ · with loops := loops + 1 })
      let goOn ←
        try round
        catch
          | .leaveLoop 0 again => pure again
          | .leaveLoop (more + 1) again => throw (.leaveLoop more again)
          | stop => throw stop
      modify ({ · with loops })
      pure goOn

def runMatch : Nat → Word → Bool → Word → ShellM Unit
  | 0, _, _, _ => throw .endless
  | steps + 1, subject, wanted, word => do
      let text ← expandText steps subject
      let pattern : Pattern := .ofChars (← expandPattern steps word)
      setStatus (if pattern.accepts text.toList = wanted then 0 else 1)

def runSimple : Nat → List Word → List Redirection → ShellM Unit
  | 0, _, _ => throw .endless
  | steps + 1, words, redirections => do
      let (assigned, words) := assignments words
      let fields ← expandAll steps words
      let before ← get
      if fields.isEmpty then
        unless words.any hasCommand do setStatus 0
        let possible ← redirectAll steps redirections
        if possible then assignAll steps assigned
        modify (fun after =>
          { after with input := before.input, output := before.output, errors := before.errors })
      else
        if ← redirectAll steps redirections then
          assignAll steps assigned
          modify (fun machine =>
            { machine with exported := assigned.map Prod.fst ++ machine.exported })
          perform steps fields
        if fields ≠ ["exec"] then
          modify (fun after =>
            { after with
              input := if redirections.isEmpty then after.input else before.input
              output := before.output
              errors := before.errors
              bindings := if assigned.isEmpty then after.bindings else before.bindings
              exported := if assigned.isEmpty then after.exported else before.exported })

def assignAll : Nat → List (String × Word) → ShellM Unit
  | 0, _ => throw .endless
  | steps + 1, assigned =>
      assigned.forM (fun (name, word) => do
        let value ← expandText steps word
        assignVariable name value)

def redirectAll : Nat → List Redirection → ShellM Bool
  | 0, _ => throw .endless
  | steps + 1, redirections =>
      redirections.foldlM
        (fun possible redirection => do
          if possible then
            redirect redirection.descriptor redirection.kind
              (← expandText steps redirection.target)
          else pure false)
        true

def expandAll : Nat → List Word → ShellM (List String)
  | 0, _ => throw .endless
  | steps + 1, words =>
      words.foldlM
        (fun fields word => do
          let expanded ← word.foldlM (expandSymbol steps) Fields.none
          pure (fields ++ expanded.toList))
        []

def expandText : Nat → Word → ShellM String
  | 0, _ => throw .endless
  | steps + 1, word => do
      let whole := word.map (fun symbol =>
        match symbol with
        | .parameter name _ => .parameter name true
        | .command script _ => .command script true
        | symbol => symbol)
      let expanded ← whole.foldlM (expandSymbol steps) Fields.none
      pure (" ".intercalate expanded.toList)

def expandSymbol : Nat → Fields → Symbol → ShellM Fields
  | 0, _, _ => throw .endless
  | steps + 1, fields, symbol =>
      match symbol with
      | .plain c | .literal c => pure (fields.add (String.singleton c))
      | .quote => pure (fields.add "")
      | .parameter text quoted => expandParameter steps fields text quoted
      | .command script quoted => do
          match expression? script with
          | some text => do
              let expression ← expandText steps (quotedSymbols text.toList)
              match Arithmetic.value? (← get).integer expression with
              | some value => pure (fields.addValue quoted (toString value))
              | none =>
                  complain ("arithmetic expression: expecting primary: \"" ++ expression ++ "\"") 2
                  throw (.exit 2)
          | none => do
              let text ← capture (runScript steps script)
              let kept := (text.toList.reverse.dropWhile (· == '\n')).reverse
              pure (fields.addValue quoted (String.ofList kept))

def expandParameter : Nat → Fields → String → Bool → ShellM Fields
  | 0, _, _, _ => throw .endless
  | steps + 1, fields, text, quoted => do
      let (name, use, word) := parameterParts text
      let machine ← get
      let value := machine.parameter? name
      let isMissing (orEmpty : Bool) : Bool :=
        match value with
        | none => true
        | some value => orEmpty && value.isEmpty
      let known := fields.addValue quoted (value.getD "")
      match use with
      | .plain =>
          if name = "@" && quoted then pure (fields.addEach machine.arguments)
          else if machine.needsValues && value.isNone then refuseParameter name "parameter not set"
          else pure known
      | .length => pure (fields.add (toString (value.getD "").length))
      | .instead orEmpty =>
          if isMissing orEmpty then expandInstead steps fields quoted word else pure known
      | .assign orEmpty =>
          if isMissing orEmpty then
            let value ← expandText steps (symbols word).1
            assignVariable name value
            pure (fields.addValue quoted value)
          else pure known
      | .replace orEmpty =>
          if isMissing orEmpty then pure (if quoted then fields.add "" else fields)
          else expandInstead steps fields quoted word
      | .demand orEmpty =>
          if isMissing orEmpty then
            let message ← expandText steps (symbols word).1
            refuseParameter name (if message ≠ "" then message
              else if orEmpty then "parameter not set or null" else "parameter not set")
          else pure known
      | .cut front long =>
          let pattern : Pattern := .ofChars (← expandPattern steps (symbols word).1)
          pure (fields.addValue quoted
            (String.ofList (cutOff pattern front long (value.getD "").toList)))
      | .unknown =>
          complain "Bad substitution" 2
          throw (.exit 2)

def expandInstead : Nat → Fields → Bool → List Char → ShellM Fields
  | 0, _, _, _ => throw .endless
  | steps + 1, fields, quoted, word =>
      if quoted then do
        let text ← expandText steps (quotedSymbols word)
        pure (fields.add text)
      else
        (symbols word).1.foldlM
          (fun fields symbol =>
            match symbol with
            | .plain c =>
                pure (if Fields.isSeparator c then fields.close
                  else fields.add (String.singleton c))
            | symbol => expandSymbol steps fields symbol)
          fields

def runScript : Nat → String → ShellM Unit
  | 0, _ => throw .endless
  | steps + 1, script => do
      if script.toList.all Char.isWhitespace then setStatus 0
      runLines steps (tokens script.toList)

def runLines : Nat → List Token → ShellM Unit
  | 0, _ => throw .endless
  | _, [] => pure ()
  | steps + 1, tokens =>
      match Command.firstLine tokens with
      | .ok (command, rest) => do
          run steps command
          runLines steps rest
      | .error fault => do
          complain ("Syntax error: " ++ fault.message) 2
          throw (.exit 2)

def runFile : Nat → String → ShellM Unit
  | 0, _ => throw .endless
  | steps + 1, path => do
      let machine ← get
      match if path.contains '/' then machine.files.readText (machine.pathFrom path)
        else .error .missing with
      | .ok script =>
          try runScript steps script
          catch
            | .leaveScript status => setStatus status
            | stop => throw stop
      | .error _ =>
          if machine.dialect.extended then
            writeError (machine.dialect.name ++ ": " ++ path ++ ": No such file or directory\n")
            setStatus 1
          else
            complain (".: " ++ (if path.contains '/' then "cannot open " ++ path ++ ": No such file"
              else path ++ ": not found")) 2
            throw (.exit 2)

def runDefined : Nat → Command → List String → ShellM Unit
  | 0, _, _ => throw .endless
  | steps + 1, body, arguments => do
      let before ← get
      set { before with arguments, inDefinition := true }
      try run steps body
      catch
        | .leaveScript status => setStatus status
        | stop => throw stop
      modify
        ({ · with arguments := before.arguments, inDefinition := before.inDefinition })

def receiveSignal : Nat → Nat → Nat → ShellM Unit
  | 0, _, _ => throw .endless
  | steps + 1, process, signal => do
      let machine ← get
      match machine.traps.lookup signal with
      | some action =>
          if process = machine.process && signal ≠ 9 then
            setStatus 0
            runScript steps action
          else throw (.killed process signal)
      | none => throw (.killed process signal)

def perform : Nat → List String → ShellM Unit
  | 0, _ => throw .endless
  | _, [] => pure ()
  | steps + 1, name :: arguments => do
      match (← get).definitions.lookup name with
      | some body => runDefined steps body arguments
      | none => performProgram steps name arguments

def performProgram : Nat → String → List String → ShellM Unit
  | 0, _, _ => throw .endless
  | steps + 1, name, arguments =>
      match name with
      | "kill" =>
          try runKill arguments
          catch
            | .killed process signal => receiveSignal steps process signal
            | stop => throw stop
      | "." =>
          match arguments with
          | [] => setStatus 0
          | path :: _ => runFile steps path
      | "source" => do
          if (← get).dialect.extended then performProgram steps "." arguments
          else notFound name
      | "eval" => runScript steps (" ".intercalate arguments)
      | "command" =>
          match arguments with
          | "-v" :: arguments => runWhere arguments
          | "-V" :: arguments => runType arguments
          | "--" :: program :: arguments | program :: arguments =>
              performProgram steps program arguments
          | [] => setStatus 0
      | "nohup" | "nice" =>
          match arguments with
          | program :: arguments => runProgram steps name program arguments
          | [] => setStatus (if name = "nice" then 0 else 125)
      | "env" => runWithEnvironment steps arguments
      | "timeout" => runWithLimit steps false terminationSignal arguments
      | "exec" =>
          match arguments with
          | [] => setStatus 0
          | program :: _ => do
              modify ({ · with traps := [] })
              if isInstalled program || program.contains '/' then perform steps arguments
              else complain ("exec: " ++ program ++ ": not found") 127
              throw (.exit (← get).status)
      | "[[" => do
          if (← get).dialect.extended then runBracket name "]]" arguments else notFound name
      | name =>
          let program := (programAt? name).getD name
          match dialectOf? program, runPlain? program arguments with
          | some dialect, _ => do
              let child := 10 * (← get).process + 1
              try
                inSubshell (do
                  modify (fun machine =>
                    { machine with
                      process := child, above := machine.process :: machine.above })
                  runShell steps dialect arguments)
              catch
                | .killed process signal =>
                    if process = child then do
                      writeError (deathNotice signal)
                      setStatus (128 + signal)
                    else receiveSignal steps process signal
                | stop => throw stop
          | none, some action =>
              if isInstalled program || !name.contains '/' then action else notFound name
          | none, none => notFound name

def runProgram : Nat → String → String → List String → ShellM Unit
  | 0, _, _, _ => throw .endless
  | steps + 1, outer, program, arguments =>
      if isInstalled program || (programAt? program).isSome then
        performProgram steps program arguments
      else do
        writeError (outer ++ ": '" ++ program ++ "': No such file or directory\n")
        setStatus 127

def runWithEnvironment : Nat → List String → ShellM Unit
  | 0, _ => throw .endless
  | _, [] => setStatus 0
  | steps + 1, argument :: arguments => do
      let before ← get
      if argument = "-i" || argument = "-" then
        set { before with exported := [] }
        runWithEnvironment steps arguments
        modify ({ · with exported := before.exported })
      else if argument.contains '=' then
        runExport [argument]
        runWithEnvironment steps arguments
        modify ({ · with exported := before.exported, bindings := before.bindings })
      else runProgram steps "env" argument arguments

def runWithLimit : Nat → Bool → Nat → List String → ShellM Unit
  | 0, _, _, _ => throw .endless
  | steps + 1, keepsStatus, signal, arguments =>
      match arguments with
      | "-s" :: name :: arguments =>
          runWithLimit steps keepsStatus ((signalNumber? name).getD signal) arguments
      | "-k" :: _ :: arguments => runWithLimit steps keepsStatus signal arguments
      | "--preserve-status" :: arguments => runWithLimit steps true signal arguments
      | time :: program :: arguments =>
          match delay? time with
          | none => do
              writeError ("timeout: invalid time interval '" ++ time ++
                "'\nTry 'timeout --help' for more information.\n")
              setStatus 125
          | some limit => do
              let before ← get
              let isOver ←
                try
                  inSubshell (runProgram steps "timeout" program arguments)
                  pure false
                catch
                  | .endless => pure true
                  | stop => throw stop
              match limit with
              | .forever | .finite 0 => if isOver then throw .endless
              | .finite limit =>
                  let finish := before.clock + limit
                  let after ← get
                  if isOver || finish < after.clock then
                    set
                      { before with
                        clock := finish
                        events := after.events.filter (fun event => event.time ≤ finish)
                        captured := after.captured
                        files := after.files
                        status := if keepsStatus || signal = 9 then 128 + signal else 124 }
      | _ => do
          writeError "timeout: missing operand\nTry 'timeout --help' for more information.\n"
          setStatus 125

def runToEnd : Nat → ShellM Unit → ShellM Unit
  | 0, _ => throw .endless
  | steps + 1, action => do
      try action
      catch
        | .exit status | .leaveScript status => setStatus status
        | stop => throw stop
      let machine ← get
      match machine.traps.lookup 0 with
      | none => pure ()
      | some action =>
          runScript steps action
          setStatus machine.status

def runShell : Nat → Dialect → List String → ShellM Unit
  | 0, _, _ => throw .endless
  | steps + 1, dialect, arguments => do
      let start := shellStart dialect.name false false false arguments
      becomeShell dialect start
      runToEnd steps (do
        match start.source with
        | .text script => runScript steps script
        | .input => runScript steps (← get).input
        | .missing => complain "-c requires an argument" 2
        | .file path =>
            let machine ← get
            match machine.files.readText (machine.pathFrom path) with
            | .ok script => runScript steps script
            | .error fault => refuseScript dialect path fault)

end

end PrivateComputation.Shell
