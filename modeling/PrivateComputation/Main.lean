import PrivateComputation.CommandLine.Perform
import PrivateComputation.Text.Uuid
import Std.Time.DateTime.Timestamp

/-!
The program: it loads the files that a request has to do with, carries the request out, and writes
what comes of it.
-/

namespace PrivateComputation.Program

def isFolder (path : String) : IO Bool := do
  try (← IO.FS.realPath path).isDir
  catch _ => pure false

def load (tree : FileTree) (path : String) : IO FileTree := do
  if ← isFolder path then pure (tree.putAt path .folder)
  else
    try
      let content ← IO.FS.readBinFile path
      pure (tree.putAt path (.file content))
    catch _ => pure tree

def loadDirectory (tree : FileTree) (path : String) : IO FileTree := do
  let place := FileTree.directoryPath path
  if ← isFolder place then
    let entries ← (← IO.FS.realPath place).readDir
    entries.foldlM
      (fun tree entry => load tree (place ++ "/" ++ entry.fileName))
      (if path = "" then tree else tree.putAt path .folder)
  else load tree place

def saveDirectory (before after : FileTree) (path : String) : IO Unit := do
  let place := FileTree.directoryPath path
  let (old, new) := (before.directory path, after.directory path)
  if new.names.isEmpty && old.names.isEmpty then pure ()
  else
    IO.FS.createDirAll place
    new.names.forM (fun name =>
      match new.entry? name with
      | some (.file content) =>
          if old.entry? name = new.entry? name then pure ()
          else IO.FS.writeBinFile (place ++ "/" ++ name) content
      | _ => pure ())
    old.names.forM (fun name =>
      if new.contains name then pure () else IO.FS.removeFile (place ++ "/" ++ name))

def hostConfig : IO (Option String) := do
  match ← IO.getEnv "XDG_CONFIG_HOME", ← IO.getEnv "HOME" with
  | some folder, _ => pure (some (folder ++ "/pce/toolkit.toml"))
  | none, some home => pure (some (home ++ "/.config/pce/toolkit.toml"))
  | none, none => pure none

def namedFiles (invocation : Invocation) : List String :=
  invocation.config.getD Workplace.projectConfig ::
    match invocation.request with
    | .validate request => [request.inventory]
    | .checkDuplicates request => [request.inventory]
    | .runWorkflow request => [request.definition]
    | .workflowStatus _ | .showConfig => []

def readClock : IO Instant := do
  let now ← Std.Time.Timestamp.now
  pure ((Instant.ofNanoseconds? now.toNanosecondsSinceUnixEpoch.val.toNat).getD .epoch)

def runDirectory? (place : Workplace) (invocation : Invocation) : Option String :=
  match invocation.request with
  | .runWorkflow _ | .workflowStatus _ =>
      (place.settings invocation.config none).toOption.map (·.workflow.stateDirectory)
  | _ => none

def workplace (invocation : Invocation) : IO Workplace := do
  let host ← hostConfig
  let files ← (host.toList ++ namedFiles invocation).foldlM load FileTree.empty
  let seed := (← IO.getRandomBytes 16).toList
  let containerId (number : Nat) : String :=
    uuidOf (Sha256.digest (seed ++ (toString number).toUTF8.toList))
  pure ⟨files, host, ← readClock, uuidOf seed, containerId⟩

def write (outcome : Outcome) : IO Unit := do
  IO.print outcome.output
  IO.eprint outcome.errors

def carryOut (invocation : Invocation) : IO Outcome := do
  let place ← workplace invocation
  match runDirectory? place invocation with
  | none => pure (place.perform invocation)
  | some path =>
      let place := { place with files := ← loadDirectory place.files path }
      let outcome := place.perform invocation
      saveDirectory place.files outcome.files path
      pure outcome

def run (arguments : List String) : IO UInt32 := do
  let outcome ← match Invocation.ofArguments arguments with
    | .ok invocation => carryOut invocation
    | .error stop => pure (Workplace.stopped .empty stop)
  write outcome
  pure (UInt32.ofNat outcome.exitCode)

end PrivateComputation.Program

def main (arguments : List String) : IO UInt32 := PrivateComputation.Program.run arguments
