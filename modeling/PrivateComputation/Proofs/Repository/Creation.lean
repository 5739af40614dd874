import PrivateComputation.Proofs.Repository.Leavings
import PrivateComputation.Repository.Race

/-!
One creation of a run, turn by turn: the stages that it comes to, all that one turn can do, and that
it does in its turns what a repository does at once where nobody comes between.
-/

namespace PrivateComputation

open DirectoryRepository

/-! ## File operations that go well -/

namespace Directory

variable {directory after created : Directory}

theorem write_ok {name : String} {content : ByteArray}
    (written : directory.write name content = .ok after) :
    ∃ entries, directory = .present entries ∧
      after = .present (entries.insert name (.file content)) := by
  cases directory with
  | absent => cases written
  | blocked fault => cases fault <;> cases written
  | present entries =>
      rw [write_present] at written
      split at written
      · cases written
      · split at written
        · cases written
        · cases written
          exact ⟨entries, rfl, rfl⟩

theorem rename_ok {source target : String} (renamed : directory.rename source target = .ok after) :
    ∃ entries content, directory = .present entries ∧ isLongName source = false ∧
      entries.get? source = some (.file content) ∧
        after = .present ((entries.erase source).insert target (.file content)) := by
  cases directory with
  | absent => cases renamed
  | blocked fault => cases fault <;> cases renamed
  | present entries =>
      cases short : isLongName source with
      | true => simp [rename, entriesFor, short, bind, Except.bind] at renamed
      | false =>
          cases there : entries.get? source with
          | none => simp [rename, entriesFor, short, there, bind, Except.bind] at renamed
          | some entry =>
              cases entry with
              | folder => simp [rename, entriesFor, short, there, bind, Except.bind] at renamed
              | file content =>
                  rw [rename_file short there] at renamed
                  split at renamed
                  · cases renamed
                  · cases renamed
                    exact ⟨entries, content, rfl, rfl, there, rfl⟩

theorem entry?_create (made : directory.create = .ok created) (name : String) :
    created.entry? name = directory.entry? name := by
  cases directory with
  | absent | present entries =>
      cases made
      rfl
  | blocked fault => cases made

theorem create_of_read {id : String} {run : WorkflowRun} (made : directory.create = .ok created)
    (valid : isRunId id = true) (found : DirectoryRepository.read id ⟨directory⟩ = .ok run) :
    created = directory := by
  cases directory with
  | absent =>
      rw [read_absent valid] at found
      cases found
  | present entries => exact (Except.ok.inj made).symm
  | blocked fault => cases made

end Directory

/-! ## One creation -/

namespace Creation

variable {run : WorkflowRun} {creation : Creation} {directory : Directory}
  {outcome : Creation × Directory}

def atDirectory (run : WorkflowRun) : Creation := proceed (writeSteps run (run.id ++ ".json"))

def atDraft (run : WorkflowRun) : Creation :=
  .writing (.writeDraft (draftName run.id) run.toText.toUTF8)
    [.rename (draftName run.id) (run.id ++ ".json")]

def atRename (run : WorkflowRun) : Creation :=
  .writing (.rename (draftName run.id) (run.id ++ ".json")) []

inductive Reached (run : WorkflowRun) : Creation → Prop where
  | unchecked : Reached run .unchecked
  | directory : Reached run (atDirectory run)
  | draft : Reached run (atDraft run)
  | rename : Reached run (atRename run)
  | done (answer : RepositoryResult Unit) : Reached run (.done answer)

inductive Moves (run : WorkflowRun) : Creation → Directory → Creation × Directory → Prop where
  | stays (answer : RepositoryResult Unit) (directory : Directory) :
      Moves run (.done answer) directory (.done answer, directory)
  | refused {directory : Directory} (there : directory.contains (run.id ++ ".json") = true) :
      Moves run .unchecked directory (.done (.error (.alreadyExists run.id)), directory)
  | passed {directory : Directory} (absent : directory.contains (run.id ++ ".json") = false) :
      Moves run .unchecked directory (atDirectory run, directory)
  | failed (step : WriteStep) (rest : List WriteStep) (directory : Directory) (fault : FileFault) :
      Moves run (.writing step rest) directory (.done (.error (.file fault)), directory)
  | made {directory : Directory} {entries : SortedMap DirectoryEntry}
      (created : directory.create = .ok (.present entries)) :
      Moves run (atDirectory run) directory (atDraft run, .present entries)
  | drafted (entries : SortedMap DirectoryEntry) :
      Moves run (atDraft run) (.present entries) (atRename run,
        .present (entries.insert (draftName run.id) (.file run.toText.toUTF8)))
  | renamed {entries : SortedMap DirectoryEntry} {content : ByteArray}
      (short : Directory.isLongName (draftName run.id) = false)
      (there : entries.get? (draftName run.id) = some (.file content)) :
      Moves run (atRename run) (.present entries) (.done (.ok ()),
        .present ((entries.erase (draftName run.id)).insert (run.id ++ ".json") (.file content)))

theorem moves_atDraft (run : WorkflowRun) (directory : Directory) :
    Moves run (atDraft run) directory ((atDraft run).step run directory) := by
  cases written : directory.write (draftName run.id) run.toText.toUTF8 with
  | error fault =>
      simp only [atDraft, step, WriteStep.apply, written]
      exact .failed _ _ _ _
  | ok after =>
      obtain ⟨entries, rfl, rfl⟩ := Directory.write_ok written
      simp only [atDraft, step, WriteStep.apply, written]
      exact .drafted entries

theorem moves_atRename (run : WorkflowRun) (directory : Directory) :
    Moves run (atRename run) directory ((atRename run).step run directory) := by
  cases renamed : directory.rename (draftName run.id) (run.id ++ ".json") with
  | error fault =>
      simp only [atRename, step, WriteStep.apply, renamed]
      exact .failed _ _ _ _
  | ok after =>
      obtain ⟨entries, content, rfl, short, there, rfl⟩ := Directory.rename_ok renamed
      simp only [atRename, step, WriteStep.apply, renamed]
      exact .renamed short there

theorem moves_step (reached : Reached run creation) (valid : isRunId run.id = true)
    (directory : Directory) : Moves run creation directory (creation.step run directory) := by
  cases reached with
  | done answer => exact .stays answer directory
  | unchecked =>
      simp only [step, fileName, valid, if_true]
      split
      next there => exact .refused there
      next absent => exact .passed (Bool.eq_false_iff.mpr absent)
  | directory =>
      cases made : directory.create with
      | error fault =>
          simp only [atDirectory, proceed, writeSteps, step, WriteStep.apply, made]
          exact .failed _ _ _ _
      | ok created =>
          obtain ⟨entries, rfl⟩ := Directory.present_of_create made
          have moved : (atDirectory run).step run directory =
              (atDraft run, .present entries) := by
            simp only [atDirectory, proceed, writeSteps, step, WriteStep.apply, made, atDraft]
          rw [moved]
          exact .made made
  | draft => exact moves_atDraft run directory
  | rename => exact moves_atRename run directory

theorem Moves.reached (moves : Moves run creation directory outcome) : Reached run outcome.1 := by
  cases moves with
  | stays answer => exact .done answer
  | refused there => exact .done _
  | passed absent => exact .directory
  | failed step rest directory fault => exact .done _
  | made created => exact .draft
  | drafted => exact .rename
  | renamed short there => exact .done _

theorem alone_done (run : WorkflowRun) (answer : RepositoryResult Unit) (directory : Directory)
    (turns : Nat) : alone run turns (.done answer, directory) = (.done answer, directory) := by
  induction turns with
  | zero => rfl
  | succ turns ih => exact ih

theorem alone_proceed (run : WorkflowRun) (steps : List WriteStep) (directory : Directory) :
    alone run steps.length (proceed steps, directory) =
      (.done ((perform steps directory).1.mapError .file), (perform steps directory).2) := by
  induction steps generalizing directory with
  | nil => rfl
  | cons step rest ih =>
      simp only [List.length_cons, alone, proceed, Creation.step, perform]
      cases step.apply directory with
      | ok after => exact ih after
      | error fault => exact alone_done run _ directory rest.length

/-- Left to itself a creation does in four turns what a repository does at once. -/
theorem alone_eq_create (run : WorkflowRun) (directory : Directory) :
    alone run 4 (.unchecked, directory) =
      (.done (create run ⟨directory⟩).1, (create run ⟨directory⟩).2.directory) := by
  change alone run 3 (step run .unchecked directory) = _
  by_cases valid : isRunId run.id = true
  · by_cases there : directory.contains (run.id ++ ".json") = true
    · simp only [step, create, fileName, valid, there, if_true]
      exact alone_done run _ directory 3
    · simp only [step, create, fileName, valid, there, Bool.false_eq_true, if_true, if_false]
      exact alone_proceed run (writeSteps run (run.id ++ ".json")) directory
  · simp only [step, create, fileName, valid, Bool.false_eq_true, if_false]
    exact alone_done run _ directory 3

end Creation

end PrivateComputation
