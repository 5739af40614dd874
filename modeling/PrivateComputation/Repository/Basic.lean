import PrivateComputation.Files.Fault
import PrivateComputation.Workflow.Run

/-!
Repositories that keep workflow runs under their ids, and the one that keeps them in memory.
-/

namespace PrivateComputation

inductive RepositoryFault where
  | notFound (id : String)
  | alreadyExists (id : String)
  | invalidId (id : String)
  | file (fault : FileFault)
  | json (fault : JsonFault)
  deriving DecidableEq

def RepositoryFault.message : RepositoryFault → String
  | .notFound id => "Workflow instance " ++ id ++ " not found"
  | .alreadyExists id => "Workflow instance " ++ id ++ " already exists"
  | .invalidId id => "Invalid workflow instance id '" ++ id ++ "'"
  | .file fault => "IO error: " ++ fault.message
  | .json fault => "JSON error: " ++ fault.message

abbrev RepositoryResult (α : Type) := Except RepositoryFault α

/-- A repository with a state of some type. A write takes the state it finds to the state it leaves,
also where it fails. -/
class RunRepository (ρ : Type) where
  create : WorkflowRun → ρ → RepositoryResult Unit × ρ
  read : String → ρ → RepositoryResult WorkflowRun
  update : WorkflowRun → ρ → RepositoryResult Unit × ρ
  delete : String → ρ → RepositoryResult Unit × ρ

structure MemoryRepository where
  runs : SortedMap WorkflowRun

namespace MemoryRepository

def empty : MemoryRepository := ⟨∅⟩

def create (run : WorkflowRun) (repository : MemoryRepository) :
    RepositoryResult Unit × MemoryRepository :=
  if repository.runs.contains run.id then (.error (.alreadyExists run.id), repository)
  else (.ok (), ⟨repository.runs.insert run.id run⟩)

def read (id : String) (repository : MemoryRepository) : RepositoryResult WorkflowRun :=
  match repository.runs.get? id with
  | some run => .ok run
  | none => .error (.notFound id)

def update (run : WorkflowRun) (repository : MemoryRepository) :
    RepositoryResult Unit × MemoryRepository :=
  if repository.runs.contains run.id then (.ok (), ⟨repository.runs.insert run.id run⟩)
  else (.error (.notFound run.id), repository)

def delete (id : String) (repository : MemoryRepository) :
    RepositoryResult Unit × MemoryRepository :=
  if repository.runs.contains id then (.ok (), ⟨repository.runs.erase id⟩)
  else (.error (.notFound id), repository)

instance : RunRepository MemoryRepository := ⟨create, read, update, delete⟩

end MemoryRepository

end PrivateComputation
