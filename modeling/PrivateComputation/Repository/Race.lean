import PrivateComputation.Repository.Directory

/-!
Creations of runs by several processes that share a directory: they take turns in any order, and in
each turn one of them does one thing to the directory.
-/

namespace PrivateComputation

open DirectoryRepository (WriteStep)

/-- How far the creation of a run has come. -/
inductive Creation where
  | unchecked
  /-- The check has passed; these steps are still to be taken. -/
  | writing (step : WriteStep) (rest : List WriteStep)
  | done (answer : RepositoryResult Unit)

namespace Creation

def proceed : List WriteStep → Creation
  | [] => .done (.ok ())
  | step :: rest => .writing step rest

def step (run : WorkflowRun) (creation : Creation) (directory : Directory) :
    Creation × Directory :=
  match creation with
  | .unchecked =>
      match DirectoryRepository.fileName run.id with
      | .error fault => (.done (.error fault), directory)
      | .ok name =>
          if directory.contains name then (.done (.error (.alreadyExists run.id)), directory)
          else (proceed (DirectoryRepository.writeSteps run name), directory)
  | .writing step rest =>
      match step.apply directory with
      | .ok directory => (proceed rest, directory)
      | .error fault => (.done (.error (.file fault)), directory)
  | .done answer => (.done answer, directory)

def alone (run : WorkflowRun) : Nat → Creation × Directory → Creation × Directory
  | 0, outcome => outcome
  | turns + 1, outcome => alone run turns (outcome.1.step run outcome.2)

def isWriting : Creation → Bool
  | .writing _ _ => true
  | .unchecked | .done _ => false

end Creation

structure Race (Process : Type) where
  directory : Directory
  stage : Process → Creation

namespace Race

variable {Process : Type} [DecidableEq Process]

def begin (directory : Directory) : Race Process := ⟨directory, fun _ => .unchecked⟩

def turn (runs : Process → WorkflowRun) (race : Race Process) (process : Process) :
    Race Process :=
  let outcome := (race.stage process).step (runs process) race.directory
  ⟨outcome.2, fun other => if other = process then outcome.1 else race.stage other⟩

def play (runs : Process → WorkflowRun) (turns : List Process) (race : Race Process) :
    Race Process :=
  turns.foldl (turn runs) race

/-- At most one creation is between its check and its last step. -/
def Apart (race : Race Process) : Prop :=
  ∀ one two, (race.stage one).isWriting = true → (race.stage two).isWriting = true → one = two

/-- So it is all along, as it is where a lock is held from the check on. -/
def ApartThroughout (runs : Process → WorkflowRun) : List Process → Race Process → Prop
  | [], race => race.Apart
  | process :: turns, race => race.Apart ∧ ApartThroughout runs turns (race.turn runs process)

end Race

end PrivateComputation
