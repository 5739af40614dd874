import PrivateComputation.Repository.Basic

/-!
Calls to a repository as data, and sequences of them.
-/

namespace PrivateComputation

variable {ρ : Type}

inductive RepositoryCall where
  | create (run : WorkflowRun)
  | read (id : String)
  | update (run : WorkflowRun)
  | delete (id : String)

namespace RepositoryCall

def id : RepositoryCall → String
  | .create run | .update run => run.id
  | .read id | .delete id => id

/-- The answer has a run only where one was read. -/
def perform [RunRepository ρ] (call : RepositoryCall) (repository : ρ) :
    RepositoryResult (Option WorkflowRun) × ρ :=
  let written (outcome : RepositoryResult Unit × ρ) : RepositoryResult (Option WorkflowRun) × ρ :=
    (outcome.1.map (fun _ => none), outcome.2)
  match call with
  | .create run => written (RunRepository.create run repository)
  | .read id => ((RunRepository.read id repository).map some, repository)
  | .update run => written (RunRepository.update run repository)
  | .delete id => written (RunRepository.delete id repository)

def performAll [RunRepository ρ] :
    List RepositoryCall → ρ → List (RepositoryResult (Option WorkflowRun)) × ρ
  | [], repository => ([], repository)
  | call :: calls, repository =>
      let outcome := call.perform repository
      let rest := performAll calls outcome.2
      (outcome.1 :: rest.1, rest.2)

end RepositoryCall

end PrivateComputation
