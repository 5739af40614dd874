import PrivateComputation.Repository.Call
import PrivateComputation.Repository.Directory

/-!
Calls to a directory of runs that are cut short, by a crash or by a failing file operation, and
what they leave behind.
-/

namespace PrivateComputation

/-- Where the steps of a write end too early. -/
structure Interruption where
  /-- So many steps are carried out as a whole. -/
  steps : Nat
  /-- The next one, where it writes a draft, may have been begun; so many bytes are then there. -/
  begun : Option Nat

namespace Interruption

def carriedOut (cut : Interruption) (steps : List DirectoryRepository.WriteStep) :
    List DirectoryRepository.WriteStep :=
  let part : List DirectoryRepository.WriteStep :=
    match cut.begun, steps[cut.steps]? with
    | some bytes, some (.writeDraft name content) => [.writeDraft name (content.extract 0 bytes)]
    | _, _ => []
  steps.take cut.steps ++ part

def never : Interruption := ⟨3, none⟩

end Interruption

namespace RepositoryCall

def planned (call : RepositoryCall) (directory : Directory) :
    List DirectoryRepository.WriteStep :=
  match call with
  | .create run =>
      match DirectoryRepository.fileName run.id with
      | .ok name =>
          if directory.contains name then [] else DirectoryRepository.writeSteps run name
      | .error _ => []
  | .update run =>
      match DirectoryRepository.fileName run.id with
      | .ok name =>
          if directory.contains name then DirectoryRepository.writeSteps run name else []
      | .error _ => []
  | .read _ | .delete _ => []

def interrupted (call : RepositoryCall) (cut : Interruption) (repository : DirectoryRepository) :
    DirectoryRepository :=
  let steps := cut.carriedOut (call.planned repository.directory)
  ⟨(DirectoryRepository.perform steps repository.directory).2⟩

end RepositoryCall

/-- A call as it is made: it gets to its end, or it is cut short. -/
inductive Attempt where
  | whole (call : RepositoryCall)
  | interrupted (call : RepositoryCall) (cut : Interruption)

namespace Attempt

def perform (attempt : Attempt) (repository : DirectoryRepository) :
    Option (RepositoryResult (Option WorkflowRun)) × DirectoryRepository :=
  match attempt with
  | .whole call =>
      let outcome := call.perform repository
      (some outcome.1, outcome.2)
  | .interrupted call cut => (none, call.interrupted cut repository)

def performAll : List Attempt → DirectoryRepository →
    List (Option (RepositoryResult (Option WorkflowRun))) × DirectoryRepository
  | [], repository => ([], repository)
  | attempt :: attempts, repository =>
      let outcome := attempt.perform repository
      let rest := performAll attempts outcome.2
      (outcome.1 :: rest.1, rest.2)

end Attempt

namespace DirectoryRepository

def withoutDraft (id : String) (repository : DirectoryRepository) : DirectoryRepository :=
  match repository.directory.remove (draftName id) with
  | .ok directory => ⟨directory⟩
  | .error _ => repository

end DirectoryRepository

end PrivateComputation
