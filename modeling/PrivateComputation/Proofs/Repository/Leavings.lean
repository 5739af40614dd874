import PrivateComputation.Proofs.Repository.Refinement
import PrivateComputation.Repository.Interruption

/-!
What a write leaves that is cut short anywhere, and how runs read then: all as before, but for its
own, which may be as it was to become. In a directory that only a repository writes there is nothing
but files of runs and drafts.
-/

namespace PrivateComputation

open DirectoryRepository RepositoryCall

namespace Interruption

@[simp] theorem carriedOut_nil (cut : Interruption) : cut.carriedOut [] = [] := by
  simp [carriedOut]

theorem carriedOut_writeSteps (cut : Interruption) (run : WorkflowRun) (name : String) :
    cut.carriedOut (writeSteps run name) = [] ∨
      cut.carriedOut (writeSteps run name) = [.makeDirectory] ∨
      (∃ content, cut.carriedOut (writeSteps run name) =
        [.makeDirectory, .writeDraft (draftName run.id) content]) ∨
      cut.carriedOut (writeSteps run name) = writeSteps run name := by
  obtain ⟨steps, begun⟩ := cut
  match steps, begun with
  | 0, none | 0, some _ => exact .inl rfl
  | 1, none => exact .inr (.inl rfl)
  | 1, some _ => exact .inr (.inr (.inl ⟨_, rfl⟩))
  | 2, none | 2, some _ => exact .inr (.inr (.inl ⟨_, rfl⟩))
  | steps + 3, none | steps + 3, some _ =>
      refine .inr (.inr (.inr ?_))
      simp [carriedOut, writeSteps]

theorem carriedOut_begins (cut : Interruption) (run : WorkflowRun) (name : String) :
    cut.carriedOut (writeSteps run name) = [] ∨
      ∃ rest, cut.carriedOut (writeSteps run name) = .makeDirectory :: rest := by
  rcases cut.carriedOut_writeSteps run name with nothing | made | ⟨content, drafted⟩ | all
  · exact .inl nothing
  · exact .inr ⟨_, made⟩
  · exact .inr ⟨_, drafted⟩
  · exact .inr ⟨_, all⟩

end Interruption

theorem Directory.present_of_create {directory created : Directory}
    (made : directory.create = .ok created) : ∃ entries, created = .present entries := by
  cases directory with
  | absent => exact ⟨∅, (Except.ok.inj made).symm⟩
  | present entries => exact ⟨entries, (Except.ok.inj made).symm⟩
  | blocked fault => cases made

/-! ## What is left -/

namespace DirectoryRepository

variable {run : WorkflowRun} {entries left : SortedMap DirectoryEntry}

/-- What a write leaves where it is cut short: nothing new, its draft with some content, or the
run in its file. -/
inductive Leaves (run : WorkflowRun) (entries : SortedMap DirectoryEntry) :
    SortedMap DirectoryEntry → Prop where
  | nothing : Leaves run entries entries
  | draft (content : ByteArray) :
      Leaves run entries (entries.insert (draftName run.id) (.file content))
  | whole (short : Directory.isLongName (draftName run.id) = false) :
      Leaves run entries (settled run (run.id ++ ".json") entries)

theorem perform_makeDirectory (steps : List WriteStep) (directory : Directory) :
    perform (.makeDirectory :: steps) directory =
      match directory.create with
      | .ok created => perform steps created
      | .error fault => (.error fault, directory) := rfl

theorem leaves_save (run : WorkflowRun) (entries : SortedMap DirectoryEntry) :
    ∃ left, (save run (run.id ++ ".json") ⟨.present entries⟩).2 = ⟨.present left⟩ ∧
      Leaves run entries left := by
  rw [save_present run (draftName_ne run.id)]
  split
  · exact ⟨entries, rfl, .nothing⟩
  next long =>
    split
    · exact ⟨entries, rfl, .nothing⟩
    · split
      · exact ⟨_, rfl, .draft _⟩
      · exact ⟨_, rfl, .whole (Bool.eq_false_iff.mpr long)⟩

theorem perform_draft (name : String) (content : ByteArray) (entries : SortedMap DirectoryEntry) :
    (perform [.makeDirectory, .writeDraft name content] (.present entries)).2 =
      if Directory.isLongName name = true ∨ entries.get? name = some .folder then .present entries
      else .present (entries.insert name (.file content)) := by
  have made : WriteStep.makeDirectory.apply (.present entries) = .ok (.present entries) := rfl
  have drafted : (WriteStep.writeDraft name content).apply (.present entries) =
      (Directory.present entries).write name content := rfl
  simp only [perform, made, drafted, Directory.write_present]
  by_cases long : Directory.isLongName name = true
  · simp only [long, if_true, true_or]
  · by_cases folder : entries.get? name = some .folder
    · simp only [long, folder, Bool.false_eq_true, if_true, if_false, or_true]
    · simp only [long, folder, Bool.false_eq_true, if_false, or_self]

theorem leaves_perform (cut : Interruption) (run : WorkflowRun)
    (entries : SortedMap DirectoryEntry) :
    ∃ left, (perform (cut.carriedOut (writeSteps run (run.id ++ ".json")))
        (.present entries)).2 = .present left ∧ Leaves run entries left := by
  rcases cut.carriedOut_writeSteps run (run.id ++ ".json") with
    nothing | made | ⟨content, drafted⟩ | all
  · exact ⟨entries, by rw [nothing]; rfl, .nothing⟩
  · exact ⟨entries, by rw [made]; rfl, .nothing⟩
  · rw [drafted, perform_draft]
    split
    · exact ⟨entries, rfl, .nothing⟩
    · exact ⟨_, rfl, .draft content⟩
  · obtain ⟨left, saved, leaves⟩ := leaves_save run entries
    refine ⟨left, ?_, leaves⟩
    rw [all]
    exact congrArg DirectoryRepository.directory saved

theorem Leaves.get?_of_ne (leaves : Leaves run entries left) {name : String}
    (notFile : name ≠ run.id ++ ".json") (notDraft : name ≠ draftName run.id) :
    left.get? name = entries.get? name := by
  cases leaves with
  | nothing => rfl
  | draft content => exact SortedMap.get?_insert_of_ne entries notDraft _
  | whole short => exact (get?_settled_of_ne run entries notFile).trans (if_neg notDraft)

end DirectoryRepository

namespace RepositoryCall

variable {call : RepositoryCall} {run : WorkflowRun}

def Writes (call : RepositoryCall) (run : WorkflowRun) : Prop :=
  call = .create run ∨ call = .update run

theorem Writes.saved (writes : call.Writes run) {repository : DirectoryRepository}
    (written : (call.perform repository).1 = .ok none) :
    (save run (run.id ++ ".json") repository).1 = .ok () ∧
      (call.perform repository).2 = (save run (run.id ++ ".json") repository).2 := by
  have unmapped : ∀ {answer : RepositoryResult Unit},
      answer.map (fun _ => (none : Option WorkflowRun)) = .ok none → answer = .ok () := by
    intro answer mapped
    cases answer with
    | ok => rfl
    | error fault => cases mapped
  rcases writes with rfl | rfl
  · exact (create_ok (unmapped written)).2
  · exact (update_ok (unmapped written)).2

theorem planned_cases (call : RepositoryCall) (directory : Directory) :
    call.planned directory = [] ∨
      ∃ run, call.Writes run ∧ isRunId run.id = true ∧
        call.planned directory = writeSteps run (run.id ++ ".json") := by
  cases call with
  | read id | delete id => exact .inl rfl
  | create run =>
      by_cases valid : isRunId run.id = true
      · simp only [planned, fileName, valid, if_true]
        split
        · exact .inl rfl
        · exact .inr ⟨run, .inl rfl, valid, rfl⟩
      · simp [planned, fileName, valid]
  | update run =>
      by_cases valid : isRunId run.id = true
      · simp only [planned, fileName, valid, if_true]
        split
        · exact .inr ⟨run, .inr rfl, valid, rfl⟩
        · exact .inl rfl
      · simp [planned, fileName, valid]

/-- A call that is cut short leaves the directory alone, or sees to it that it is there and leaves
one of three things in it. -/
theorem interrupted_cases (call : RepositoryCall) (cut : Interruption) (directory : Directory) :
    call.interrupted cut ⟨directory⟩ = ⟨directory⟩ ∨
      ∃ run entries left, call.Writes run ∧ isRunId run.id = true ∧
        directory.create = .ok (.present entries) ∧
        call.interrupted cut ⟨directory⟩ = ⟨.present left⟩ ∧ Leaves run entries left := by
  simp only [interrupted]
  rcases call.planned_cases directory with nothing | ⟨run, writes, valid, steps⟩
  · rw [nothing, Interruption.carriedOut_nil]
    exact .inl rfl
  · rw [steps]
    rcases cut.carriedOut_begins run (run.id ++ ".json") with nothing | ⟨rest, begins⟩
    · rw [nothing]
      exact .inl rfl
    · cases made : directory.create with
      | error fault =>
          left
          rw [begins, perform_makeDirectory, made]
      | ok created =>
          right
          obtain ⟨entries, rfl⟩ := Directory.present_of_create made
          obtain ⟨left, performed, leaves⟩ := leaves_perform cut run entries
          refine ⟨run, entries, left, writes, valid, rfl, ?_, leaves⟩
          rw [begins, perform_makeDirectory] at performed ⊢
          rw [made]
          exact congrArg DirectoryRepository.mk performed

theorem perform_eq_interrupted (writes : call.Writes run) (directory : Directory) :
    (call.perform (DirectoryRepository.mk directory)).2 = call.interrupted .never ⟨directory⟩ := by
  rcases writes with rfl | rfl
  · simp only [perform, RunRepository.create, DirectoryRepository.create, interrupted, planned]
    cases fileName run.id with
    | error fault => rfl
    | ok name =>
        simp only
        split <;> rfl
  · simp only [perform, RunRepository.update, DirectoryRepository.update, interrupted, planned]
    cases fileName run.id with
    | error fault => rfl
    | ok name =>
        simp only
        split <;> rfl

end RepositoryCall

/-! ## Reading what is left -/

namespace DirectoryRepository

variable {run : WorkflowRun} {entries left : SortedMap DirectoryEntry}

/-- A run reads as before. Only that its id is too long for the name of a file is noticed no sooner
than there is a directory. -/
def ReadsAlike (id : String) (before after : DirectoryRepository) : Prop :=
  read id after = read id before ∨
    before.directory = .absent ∧ Directory.isLongName (id ++ ".json") = true ∧
      read id before = .error (.notFound id) ∧ read id after = .error (.file .nameTooLong)

theorem read_absent {id : String} (valid : isRunId id = true) :
    read id ⟨.absent⟩ = .error (.notFound id) := by
  simp only [read, fileName, valid, if_true, bind, Except.bind]
  rfl

theorem read_long {id : String} (valid : isRunId id = true)
    (long : Directory.isLongName (id ++ ".json") = true) (entries : SortedMap DirectoryEntry) :
    read id ⟨.present entries⟩ = .error (.file .nameTooLong) := by
  simp only [read, fileName, valid, if_true, Directory.readText, Directory.read,
    Directory.entriesFor, long, bind, Except.bind]
  rfl

theorem read_none {id : String} (valid : isRunId id = true)
    (short : Directory.isLongName (id ++ ".json") = false)
    (absent : entries.get? (id ++ ".json") = none) :
    read id ⟨.present entries⟩ = .error (.notFound id) := by
  simp only [read, fileName, valid, if_true, Directory.readText, Directory.read,
    Directory.entriesFor, short, absent, Bool.false_eq_true, if_false, bind, Except.bind]
  rfl

theorem readsAlike_of_create {directory : Directory} {id : String}
    (made : directory.create = .ok (.present entries))
    (same : left.get? (id ++ ".json") = entries.get? (id ++ ".json")) :
    ReadsAlike id ⟨directory⟩ ⟨.present left⟩ := by
  cases directory with
  | blocked fault => cases made
  | present before =>
      cases made
      exact .inl (read_congr same)
  | absent =>
      cases made
      by_cases valid : isRunId id = true
      · cases long : Directory.isLongName (id ++ ".json") with
        | true => exact .inr ⟨rfl, long, read_absent valid, read_long valid long left⟩
        | false => exact .inl ((read_none valid long same).trans (read_absent valid).symm)
      · simp [ReadsAlike, read, fileName, valid, bind, Except.bind]

theorem Leaves.readsAlike {directory : Directory} (leaves : Leaves run entries left)
    (made : directory.create = .ok (.present entries)) {other : String}
    (different : other ≠ run.id) :
    ReadsAlike other ⟨directory⟩ ⟨.present left⟩ :=
  readsAlike_of_create made
    (leaves.get?_of_ne (fileName_ne different) (fileName_ne_draftName run.id other))

theorem Leaves.reads_own {directory : Directory} (leaves : Leaves run entries left)
    (made : directory.create = .ok (.present entries)) (valid : isRunId run.id = true) :
    ReadsAlike run.id ⟨directory⟩ ⟨.present left⟩ ∨ read run.id ⟨.present left⟩ = .ok run := by
  cases leaves with
  | nothing => exact .inl (readsAlike_of_create made rfl)
  | draft content =>
      exact .inl (readsAlike_of_create made
        (SortedMap.get?_insert_of_ne entries (draftName_ne run.id) _))
  | whole short => exact .inr (read_file valid short (get?_settled run _ entries))

end DirectoryRepository

/-! ## Directories that only a repository writes -/

structure Directory.Orderly (directory : Directory) : Prop where
  usable : ∀ fault, directory ≠ .blocked fault
  kept : ∀ name entry, directory.entry? name = some entry →
    (∃ run : WorkflowRun, name = run.id ++ ".json" ∧ entry = .file run.toText.toUTF8 ∧
      Directory.isLongName (draftName run.id) = false) ∨
    ∃ id content, name = draftName id ∧ entry = .file content

namespace Directory.Orderly

variable {directory : Directory} {entries left : SortedMap DirectoryEntry}

theorem absent : Directory.absent.Orderly where
  usable _ same := by cases same
  kept _ _ there := by cases there

theorem create (orderly : directory.Orderly) (made : directory.create = .ok (.present entries)) :
    (Directory.present entries).Orderly where
  usable _ same := by cases same
  kept name entry there := by
    cases directory with
    | blocked fault => cases made
    | absent =>
        cases made
        cases there
    | present before =>
        cases made
        exact orderly.kept name entry there

theorem leaves (orderly : (Directory.present entries).Orderly) {run : WorkflowRun}
    (leaves : Leaves run entries left) : (Directory.present left).Orderly where
  usable _ same := by cases same
  kept name entry there := by
    cases leaves with
    | nothing => exact orderly.kept name entry there
    | draft content =>
        simp only [SortedMap.get?_insert, Directory.entry?] at there
        split at there
        next draft => exact .inr ⟨run.id, content, draft, (Option.some.inj there).symm⟩
        · exact orderly.kept name entry there
    | whole short =>
        by_cases own : name = run.id ++ ".json"
        · subst own
          simp only [get?_settled, Directory.entry?] at there
          exact .inl ⟨run, rfl, (Option.some.inj there).symm, short⟩
        · simp only [get?_settled_of_ne run entries own, Directory.entry?] at there
          split at there
          · cases there
          · exact orderly.kept name entry there

theorem interrupted (orderly : directory.Orderly) (call : RepositoryCall) (cut : Interruption) :
    (call.interrupted cut ⟨directory⟩).directory.Orderly := by
  rcases call.interrupted_cases cut directory with
    same | ⟨run, entries, left, _, _, made, result, leaves⟩
  · rw [same]
    exact orderly
  · rw [result]
    exact (orderly.create made).leaves leaves

theorem remove (orderly : directory.Orderly) {name : String} {rest : Directory}
    (removed : directory.remove name = .ok rest) : rest.Orderly := by
  cases directory with
  | absent => cases removed
  | blocked fault => exact absurd rfl (orderly.usable fault)
  | present entries =>
      rw [remove_present] at removed
      split at removed
      · cases removed
      · split at removed
        · cases removed
        · cases removed
        · cases removed
          refine ⟨nofun, ?_⟩
          intro other entry there
          simp only [SortedMap.get?_erase, Directory.entry?] at there
          split at there
          · cases there
          · exact orderly.kept other entry there

theorem perform (orderly : directory.Orderly) (call : RepositoryCall) :
    (call.perform (DirectoryRepository.mk directory)).2.directory.Orderly := by
  cases call with
  | create run =>
      rw [perform_eq_interrupted (.inl rfl)]
      exact orderly.interrupted _ _
  | update run =>
      rw [perform_eq_interrupted (.inr rfl)]
      exact orderly.interrupted _ _
  | read id => exact orderly
  | delete id =>
      simp only [RepositoryCall.perform, RunRepository.delete, DirectoryRepository.delete]
      split
      · exact orderly
      · split
        next rest removed => exact orderly.remove removed
        · exact orderly

theorem attempts (orderly : directory.Orderly) (attempts : List Attempt) :
    (Attempt.performAll attempts ⟨directory⟩).2.directory.Orderly := by
  induction attempts generalizing directory with
  | nil => exact orderly
  | cons attempt attempts ih =>
      cases attempt with
      | whole call => exact ih (orderly.perform call)
      | interrupted call cut => exact ih (orderly.interrupted call cut)

theorem read (orderly : directory.Orderly) {id : String} (valid : isRunId id = true) :
    DirectoryRepository.read id ⟨directory⟩ = .error (.notFound id) ∨
      (∃ old : WorkflowRun, old.id = id ∧ DirectoryRepository.read id ⟨directory⟩ = .ok old) ∨
      Directory.isLongName (id ++ ".json") = true ∧
        DirectoryRepository.read id ⟨directory⟩ = .error (.file .nameTooLong) := by
  cases directory with
  | absent => exact .inl (read_absent valid)
  | blocked fault => exact absurd rfl (orderly.usable fault)
  | present entries =>
      cases long : Directory.isLongName (id ++ ".json") with
      | true => exact .inr (.inr ⟨rfl, read_long valid long entries⟩)
      | false =>
          cases there : entries.get? (id ++ ".json") with
          | none => exact .inl (read_none valid long there)
          | some entry =>
              rcases orderly.kept _ _ there with
                ⟨old, named, rfl, short⟩ | ⟨other, content, named, _⟩
              · have same : id = old.id := (String.append_left_inj ".json").mp named
                subst same
                exact .inr (.inl ⟨old, rfl, read_file valid short there⟩)
              · exact absurd named (fileName_ne_draftName other id)

end Directory.Orderly

end PrivateComputation
