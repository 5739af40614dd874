import PrivateComputation.Proofs.Repository.Lawful
import PrivateComputation.Proofs.Workflow.RoundTrip
import PrivateComputation.Repository.Directory

/-!
Runs kept in the files of a directory can be relied on as those kept in memory: what a write leaves
is the whole old file or the whole new one, and a run is read back from its file.
-/

namespace PrivateComputation

namespace Directory

theorem readText_of_file {entries : SortedMap DirectoryEntry} {name text : String}
    (short : isLongName name = false) (found : entries.get? name = some (.file text.toUTF8)) :
    (present entries).readText name = .ok text := by
  have decoded : String.fromUTF8? text.toUTF8 = some text := by
    have valid : text.toUTF8.IsValidUTF8 := text.isValidUTF8
    rw [String.fromUTF8?, dif_pos valid]
    rfl
  simp only [readText, read, entriesFor, short, found, decoded, bind, Except.bind,
    Bool.false_eq_true, if_false]

theorem write_present (entries : SortedMap DirectoryEntry) (name : String) (content : ByteArray) :
    (present entries).write name content =
      if isLongName name then .error .nameTooLong
      else if entries.get? name = some .folder then .error .isDirectory
      else .ok (.present (entries.insert name (.file content))) := by
  by_cases long : isLongName name
  · simp only [write, entriesFor, long, if_true, bind, Except.bind]
  · simp only [write, entriesFor, long, Bool.false_eq_true, if_false, bind, Except.bind]
    cases found : entries.get? name with
    | none => simp
    | some entry => cases entry <;> simp

theorem rename_file {entries : SortedMap DirectoryEntry} {source target : String}
    {content : ByteArray} (short : isLongName source = false)
    (found : entries.get? source = some (.file content)) :
    (present entries).rename source target =
      if entries.get? target = some .folder then .error .isDirectory
      else .ok (.present ((entries.erase source).insert target (.file content))) := by
  simp only [rename, entriesFor, short, Bool.false_eq_true, if_false, found, bind, Except.bind]
  cases there : entries.get? target with
  | none => simp
  | some entry => cases entry <;> simp

end Directory

namespace DirectoryRepository

theorem draftName_ne (id : String) : id ++ ".json" ≠ draftName id := by
  intro same
  have sizes := congrArg String.utf8ByteSize same
  have json : ".json".utf8ByteSize = 5 := by decide
  have draft : ".json.tmp".utf8ByteSize = 9 := by decide
  rw [draftName, String.utf8ByteSize_append, String.utf8ByteSize_append] at sizes
  omega

theorem short_of_draft {id : String} (short : Directory.isLongName (draftName id) = false) :
    Directory.isLongName (id ++ ".json") = false := by
  have most : ¬255 < (draftName id).utf8ByteSize := of_decide_eq_false short
  refine decide_eq_false ?_
  rw [draftName, String.utf8ByteSize_append] at most
  rw [String.utf8ByteSize_append]
  have json : ".json".utf8ByteSize = 5 := by decide
  have draft : ".json.tmp".utf8ByteSize = 9 := by decide
  omega

def settled (run : WorkflowRun) (name : String) (entries : SortedMap DirectoryEntry) :
    SortedMap DirectoryEntry :=
  ((entries.insert (draftName run.id) (.file run.toText.toUTF8)).erase (draftName run.id)).insert
    name (.file run.toText.toUTF8)

theorem save_present (run : WorkflowRun) {name : String} (other : name ≠ draftName run.id)
    (entries : SortedMap DirectoryEntry) :
    save run name ⟨.present entries⟩ =
      if Directory.isLongName (draftName run.id) then
        (.error (.file .nameTooLong), ⟨.present entries⟩)
      else if entries.get? (draftName run.id) = some .folder then
        (.error (.file .isDirectory), ⟨.present entries⟩)
      else if entries.get? name = some .folder then
        (.error (.file .isDirectory),
          ⟨.present (entries.insert (draftName run.id) (.file run.toText.toUTF8))⟩)
      else (.ok (), ⟨.present (settled run name entries)⟩) := by
  have made : WriteStep.makeDirectory.apply (.present entries) = .ok (.present entries) := rfl
  have drafted := Directory.write_present entries (draftName run.id) run.toText.toUTF8
  have apply_draft : (WriteStep.writeDraft (draftName run.id) run.toText.toUTF8).apply
      (.present entries) = (Directory.present entries).write (draftName run.id) run.toText.toUTF8 :=
    rfl
  simp only [save, writeSteps, perform, made, apply_draft]
  by_cases long : Directory.isLongName (draftName run.id) = true
  · rw [if_pos long] at drafted ⊢
    rw [drafted]
    rfl
  · rw [if_neg long] at drafted ⊢
    by_cases folder : entries.get? (draftName run.id) = some .folder
    · rw [if_pos folder] at drafted ⊢
      rw [drafted]
      rfl
    · rw [if_neg folder] at drafted ⊢
      rw [drafted]
      have apply_rename : (WriteStep.rename (draftName run.id) name).apply
            (.present (entries.insert (draftName run.id) (.file run.toText.toUTF8))) =
          (Directory.present (entries.insert (draftName run.id) (.file run.toText.toUTF8))).rename
            (draftName run.id) name := rfl
      have renamed := @Directory.rename_file
        (entries.insert (draftName run.id) (.file run.toText.toUTF8)) (draftName run.id) name
        run.toText.toUTF8 (Bool.eq_false_iff.mpr long) (SortedMap.get?_insert_self _ _ _)
      rw [SortedMap.get?_insert_of_ne entries other] at renamed
      simp only [apply_rename]
      by_cases blocked : entries.get? name = some .folder
      · rw [if_pos blocked] at renamed ⊢
        rw [renamed]
        rfl
      · rw [if_neg blocked] at renamed ⊢
        rw [renamed]
        rfl

structure Ready (entries : SortedMap DirectoryEntry) (id : String) : Prop where
  valid : isRunId id = true
  short : Directory.isLongName (draftName id) = false
  free : entries.get? (draftName id) ≠ some .folder
  file : ∃ content, entries.get? (id ++ ".json") = some (.file content)

theorem get?_settled (run : WorkflowRun) (name : String) (entries : SortedMap DirectoryEntry) :
    (settled run name entries).get? name = some (.file run.toText.toUTF8) :=
  SortedMap.get?_insert_self _ _ _

theorem ready_settled {run : WorkflowRun} {entries : SortedMap DirectoryEntry}
    (valid : isRunId run.id = true)
    (short : Directory.isLongName (draftName run.id) = false) :
    Ready (settled run (run.id ++ ".json") entries) run.id := by
  refine ⟨valid, short, ?_, _, get?_settled run _ entries⟩
  rw [settled, SortedMap.get?_insert_of_ne _ (draftName_ne run.id).symm, SortedMap.get?_erase]
  simp

theorem read_file {entries : SortedMap DirectoryEntry} {id : String} {run : WorkflowRun}
    (valid : isRunId id = true) (short : Directory.isLongName (draftName id) = false)
    (found : entries.get? (id ++ ".json") = some (.file run.toText.toUTF8)) :
    read id ⟨.present entries⟩ = .ok run := by
  have text := Directory.readText_of_file (short_of_draft short) found
  simp only [read, fileName, valid, if_true, text, bind, Except.bind]
  change (WorkflowRun.ofText run.toText).mapError RepositoryFault.json = .ok run
  rw [WorkflowRun.ofText_toText]
  rfl

theorem save_ok {run : WorkflowRun} {repository : DirectoryRepository}
    (valid : isRunId run.id = true)
    (saved : (save run (run.id ++ ".json") repository).1 = .ok ()) :
    ∃ entries, (save run (run.id ++ ".json") repository).2 = ⟨.present entries⟩ ∧
      Ready entries run.id ∧ read run.id ⟨.present entries⟩ = .ok run := by
  have settles : ∀ entries : SortedMap DirectoryEntry,
      (save run (run.id ++ ".json") ⟨.present entries⟩).1 = .ok () →
        ∃ after, (save run (run.id ++ ".json") ⟨.present entries⟩).2 = ⟨.present after⟩ ∧
          Ready after run.id ∧ read run.id ⟨.present after⟩ = .ok run := by
    intro entries went
    rw [save_present run (draftName_ne run.id)] at went ⊢
    split at went
    · cases went
    next long =>
      have short := Bool.eq_false_iff.mpr long
      split at went
      · cases went
      next free =>
        split at went
        · cases went
        next unblocked =>
          rw [if_neg long, if_neg free, if_neg unblocked]
          exact ⟨_, rfl, ready_settled valid short, read_file valid short (get?_settled run _ _)⟩
  obtain ⟨directory⟩ := repository
  cases directory with
  | present entries => exact settles entries saved
  | absent => exact settles ∅ saved
  | blocked fault => cases saved

theorem read_congr {before after : SortedMap DirectoryEntry} {id : String}
    (same : after.get? (id ++ ".json") = before.get? (id ++ ".json")) :
    read id ⟨.present after⟩ = read id ⟨.present before⟩ := by
  have sameFile : (Directory.present after).read (id ++ ".json") =
      (Directory.present before).read (id ++ ".json") := by
    by_cases long : Directory.isLongName (id ++ ".json") = true
    · simp only [Directory.read, Directory.entriesFor, long, if_true, bind, Except.bind]
    · simp only [Directory.read, Directory.entriesFor, long, Bool.false_eq_true, if_false, same,
        bind, Except.bind]
  by_cases valid : isRunId id = true
  · simp only [read, fileName, valid, if_true, Directory.readText, sameFile, bind, Except.bind]
  · simp only [read, fileName, valid, Bool.false_eq_true, if_false, bind, Except.bind]

theorem create_ok {run : WorkflowRun} {repository : DirectoryRepository}
    (created : (create run repository).1 = .ok ()) :
    isRunId run.id = true ∧ (save run (run.id ++ ".json") repository).1 = .ok () ∧
      (create run repository).2 = (save run (run.id ++ ".json") repository).2 := by
  by_cases valid : isRunId run.id = true
  · simp only [create, fileName, valid, if_true] at created ⊢
    by_cases taken : repository.directory.contains (run.id ++ ".json") = true
    · rw [if_pos taken] at created
      cases created
    · rw [if_neg taken] at created ⊢
      exact ⟨trivial, created, rfl⟩
  · simp only [create, fileName, valid, Bool.false_eq_true, if_false] at created
    cases created

theorem update_ok {run : WorkflowRun} {repository : DirectoryRepository}
    (updated : (update run repository).1 = .ok ()) :
    isRunId run.id = true ∧ (save run (run.id ++ ".json") repository).1 = .ok () ∧
      (update run repository).2 = (save run (run.id ++ ".json") repository).2 := by
  by_cases valid : isRunId run.id = true
  · simp only [update, fileName, valid, if_true] at updated ⊢
    by_cases present : repository.directory.contains (run.id ++ ".json") = true
    · rw [if_pos present] at updated ⊢
      exact ⟨trivial, updated, rfl⟩
    · rw [if_neg present] at updated
      cases updated
  · simp only [update, fileName, valid, Bool.false_eq_true, if_false] at updated
    cases updated

theorem read_save (run : WorkflowRun) (valid : isRunId run.id = true)
    (entries : SortedMap DirectoryEntry) :
    read run.id (save run (run.id ++ ".json") ⟨.present entries⟩).2 =
        read run.id ⟨.present entries⟩ ∨
      read run.id (save run (run.id ++ ".json") ⟨.present entries⟩).2 = .ok run := by
  rw [save_present run (draftName_ne run.id)]
  split
  · exact .inl rfl
  next long =>
    split
    · exact .inl rfl
    · split
      · exact .inl (read_congr (SortedMap.get?_insert_of_ne entries (draftName_ne run.id) _))
      · exact .inr (read_file valid (Bool.eq_false_iff.mpr long) (get?_settled run _ _))

instance : LawfulRunRepository DirectoryRepository where
  read_create run repository created := by
    obtain ⟨valid, saved, same⟩ := create_ok created
    obtain ⟨entries, left, _, back⟩ := save_ok valid saved
    change read run.id (create run repository).2 = .ok run
    rw [same, left, back]
  read_update run repository updated := by
    obtain ⟨valid, saved, same⟩ := update_ok updated
    obtain ⟨entries, left, _, back⟩ := save_ok valid saved
    change read run.id (update run repository).2 = .ok run
    rw [same, left, back]
  read_failed_update run repository := by
    change read run.id (update run repository).2 = read run.id repository ∨
      read run.id (update run repository).2 = .ok run
    by_cases valid : isRunId run.id = true
    · simp only [update, fileName, valid, if_true]
      split
      next present =>
        obtain ⟨directory⟩ := repository
        cases directory with
        | present entries => exact read_save run valid entries
        | absent | blocked fault => cases present
      next => exact .inl rfl
    · have refused : (update run repository).2 = repository := by
        simp only [update, fileName, valid, Bool.false_eq_true, if_false]
      exact .inl (by rw [refused])

theorem update_ready {entries : SortedMap DirectoryEntry} {run : WorkflowRun}
    (ready : Ready entries run.id) : (update run ⟨.present entries⟩).1 = .ok () := by
  obtain ⟨content, file⟩ := ready.file
  have present : (Directory.present entries).contains (run.id ++ ".json") = true := by
    simp [Directory.contains, Directory.entry?, file]
  have long : ¬Directory.isLongName (draftName run.id) = true := Bool.eq_false_iff.mp ready.short
  have unblocked : entries.get? (run.id ++ ".json") ≠ some .folder := by
    rw [file]
    simp
  simp only [update, fileName, ready.valid, if_true, present]
  rw [save_present run (draftName_ne run.id), if_neg long, if_neg ready.free, if_neg unblocked]

instance : DurableRunRepository DirectoryRepository where
  Holds repository id := ∃ entries, repository.directory = .present entries ∧ Ready entries id
  holds_create run repository created := by
    obtain ⟨valid, saved, same⟩ := create_ok created
    obtain ⟨entries, left, ready, _⟩ := save_ok valid saved
    refine ⟨entries, ?_, ready⟩
    change (create run repository).2.directory = _
    rw [same, left]
  holds_update run repository held := by
    obtain ⟨before, there, ready⟩ := held
    obtain ⟨directory⟩ := repository
    subst there
    have updated := update_ready ready
    obtain ⟨valid, saved, same⟩ := update_ok updated
    obtain ⟨entries, left, after, _⟩ := save_ok valid saved
    refine ⟨updated, entries, ?_, after⟩
    change (update run _).2.directory = _
    rw [same, left]

end DirectoryRepository

end PrivateComputation
