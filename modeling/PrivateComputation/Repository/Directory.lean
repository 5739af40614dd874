import PrivateComputation.Files.Directory
import PrivateComputation.Repository.Basic

/-!
The repository that keeps each run in a file of its own. A file is written beside its place first
and then renamed, so that a reader finds the old or the new run and never a part of one.
-/

namespace PrivateComputation

structure DirectoryRepository where
  directory : Directory
  deriving DecidableEq

/-- Ids that can be file names: ASCII letters and digits, hyphens, underscores and dots, but no dot
in front. -/
def isRunId (id : String) : Bool :=
  !id.toList.isEmpty && id.toList.head? != some '.' &&
    id.toList.all (fun c => c.isAlphanum || c == '-' || c == '_' || c == '.')

namespace DirectoryRepository

def empty : DirectoryRepository := ⟨.absent⟩

def fileName (id : String) : RepositoryResult String :=
  if isRunId id then .ok (id ++ ".json") else .error (.invalidId id)

def draftName (id : String) : String := id ++ ".json.tmp"

inductive WriteStep where
  | makeDirectory
  | writeDraft (name : String) (content : ByteArray)
  | rename (draft name : String)

def WriteStep.apply : WriteStep → Directory → Except FileFault Directory
  | .makeDirectory, directory => directory.create
  | .writeDraft name content, directory => directory.write name content
  | .rename draft name, directory => directory.rename draft name

def writeSteps (run : WorkflowRun) (name : String) : List WriteStep :=
  [.makeDirectory, .writeDraft (draftName run.id) run.toText.toUTF8,
    .rename (draftName run.id) name]

/-- Takes steps until one fails; what the earlier ones did stays. -/
def perform : List WriteStep → Directory → Except FileFault Unit × Directory
  | [], directory => (.ok (), directory)
  | step :: steps, directory =>
      match step.apply directory with
      | .ok directory => perform steps directory
      | .error fault => (.error fault, directory)

def save (run : WorkflowRun) (name : String) (repository : DirectoryRepository) :
    RepositoryResult Unit × DirectoryRepository :=
  let (result, directory) := perform (writeSteps run name) repository.directory
  (result.mapError .file, ⟨directory⟩)

def create (run : WorkflowRun) (repository : DirectoryRepository) :
    RepositoryResult Unit × DirectoryRepository :=
  match fileName run.id with
  | .error fault => (.error fault, repository)
  | .ok name =>
      if repository.directory.contains name then (.error (.alreadyExists run.id), repository)
      else repository.save run name

def faultOf (id : String) : FileFault → RepositoryFault
  | .missing => .notFound id
  | fault => .file fault

def read (id : String) (repository : DirectoryRepository) : RepositoryResult WorkflowRun := do
  let name ← fileName id
  let text ← (repository.directory.readText name).mapError (faultOf id)
  (WorkflowRun.ofText text).mapError .json

def update (run : WorkflowRun) (repository : DirectoryRepository) :
    RepositoryResult Unit × DirectoryRepository :=
  match fileName run.id with
  | .error fault => (.error fault, repository)
  | .ok name =>
      if repository.directory.contains name then repository.save run name
      else (.error (.notFound run.id), repository)

def delete (id : String) (repository : DirectoryRepository) :
    RepositoryResult Unit × DirectoryRepository :=
  match fileName id with
  | .error fault => (.error fault, repository)
  | .ok name =>
      match repository.directory.remove name with
      | .ok directory => (.ok (), ⟨directory⟩)
      | .error fault => (.error (faultOf id fault), repository)

instance : RunRepository DirectoryRepository := ⟨create, read, update, delete⟩

end DirectoryRepository

end PrivateComputation
