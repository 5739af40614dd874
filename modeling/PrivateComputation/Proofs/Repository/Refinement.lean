import PrivateComputation.Proofs.Repository.Mirrors

/-!
A directory of files answers every sequence of calls as a map in memory does, and what is kept under
one id has nothing to do with what is kept under another.
-/

namespace PrivateComputation

open DirectoryRepository RepositoryCall

/-! ## Ids apart -/

namespace Directory

def SameBut (name : String) : Directory → Directory → Prop
  | .present before, .present after => ∀ other, other ≠ name → after.get? other = before.get? other
  | before, after => before = after

theorem SameBut.refl (name : String) (directory : Directory) :
    directory.SameBut name directory := by
  cases directory with
  | present entries => exact fun _ _ => rfl
  | absent | blocked fault => rfl

theorem entry?_remove {directory left : Directory} {name other : String}
    (removed : directory.remove name = .ok left) (different : other ≠ name) :
    left.entry? other = directory.entry? other := by
  cases directory with
  | absent => cases removed
  | blocked fault => cases fault <;> cases removed
  | present entries =>
      rw [remove_present] at removed
      split at removed
      · cases removed
      · split at removed
        · cases removed
        · cases removed
        · cases removed
          exact (SortedMap.get?_erase entries name other).trans (if_neg different)

end Directory

structure AlikeBut {α : Type} (name : String)
    (one two : RepositoryResult α × DirectoryRepository) : Prop where
  answer : two.1 = one.1
  entries : one.2.directory.SameBut name two.2.directory

namespace AlikeBut

variable {α β : Type} {name : String}

theorem map {one two : RepositoryResult α × DirectoryRepository} (alike : AlikeBut name one two)
    (f : α → β) : AlikeBut name (one.1.map f, one.2) (two.1.map f, two.2) :=
  ⟨congrArg (Except.map f) alike.answer, alike.entries⟩

variable {before after : SortedMap DirectoryEntry}

theorem save (run : WorkflowRun)
    (same : ∀ other, other ≠ name → after.get? other = before.get? other)
    (notFile : run.id ++ ".json" ≠ name) (notDraft : draftName run.id ≠ name) :
    AlikeBut name (save run (run.id ++ ".json") ⟨.present before⟩)
      (save run (run.id ++ ".json") ⟨.present after⟩) := by
  rw [save_present run (draftName_ne run.id), save_present run (draftName_ne run.id),
    same _ notFile, same _ notDraft]
  split
  · exact ⟨rfl, same⟩
  · split
    · exact ⟨rfl, same⟩
    · split
      · refine ⟨rfl, ?_⟩
        intro other different
        rw [SortedMap.get?_insert, SortedMap.get?_insert, same other different]
      · refine ⟨rfl, ?_⟩
        intro other different
        simp only [settled, SortedMap.get?_insert, SortedMap.get?_erase, same other different]

theorem delete (id : String)
    (same : ∀ other, other ≠ name → after.get? other = before.get? other)
    (notFile : id ++ ".json" ≠ name) :
    AlikeBut name (delete id ⟨.present before⟩) (delete id ⟨.present after⟩) := by
  simp only [DirectoryRepository.delete, fileName]
  by_cases valid : isRunId id = true
  · rw [if_pos valid]
    simp only [Directory.remove_present, same _ notFile]
    cases Directory.isLongName (id ++ ".json") with
    | true => exact ⟨rfl, same⟩
    | false =>
        cases before.get? (id ++ ".json") with
        | none => exact ⟨rfl, same⟩
        | some entry =>
            cases entry with
            | folder => exact ⟨rfl, same⟩
            | file content =>
                refine ⟨rfl, ?_⟩
                intro other different
                rw [SortedMap.get?_erase, SortedMap.get?_erase, same other different]
  · rw [if_neg valid]
    exact ⟨rfl, same⟩

end AlikeBut

namespace RepositoryCall

def answersOn (id : String) (calls : List RepositoryCall)
    (answers : List (RepositoryResult (Option WorkflowRun))) :
    List (RepositoryResult (Option WorkflowRun)) :=
  ((calls.zip answers).filter (fun pair => pair.1.id == id)).map Prod.snd

section Memory

variable {call : RepositoryCall} {runs alone : SortedMap WorkflowRun}

theorem perform_memory_congr (same : runs.get? call.id = alone.get? call.id) :
    (call.perform (MemoryRepository.mk runs)).1 = (call.perform (MemoryRepository.mk alone)).1 ∧
      (call.perform (MemoryRepository.mk runs)).2.runs.get? call.id =
        (call.perform (MemoryRepository.mk alone)).2.runs.get? call.id := by
  have contained : runs.contains call.id = alone.contains call.id := congrArg Option.isSome same
  cases call with
  | create run =>
      simp only [id] at same contained ⊢
      simp only [perform, RunRepository.create, MemoryRepository.create, contained]
      split
      · exact ⟨rfl, same⟩
      · simp
  | update run =>
      simp only [id] at same contained ⊢
      simp only [perform, RunRepository.update, MemoryRepository.update, contained]
      split
      · simp
      · exact ⟨rfl, same⟩
  | read id =>
      simp only [RepositoryCall.id] at same ⊢
      simp [perform, RunRepository.read, MemoryRepository.read, same]
  | delete id =>
      simp only [RepositoryCall.id] at same contained ⊢
      simp only [perform, RunRepository.delete, MemoryRepository.delete, contained]
      split
      · simp [SortedMap.get?_erase]
      · exact ⟨rfl, same⟩

theorem get?_perform_memory_of_ne {other : String} (different : other ≠ call.id) :
    (call.perform (MemoryRepository.mk runs)).2.runs.get? other = runs.get? other := by
  cases call with
  | create run =>
      simp only [perform, RunRepository.create, MemoryRepository.create]
      split
      · rfl
      · exact SortedMap.get?_insert_of_ne runs different run
  | update run =>
      simp only [perform, RunRepository.update, MemoryRepository.update]
      split
      · exact SortedMap.get?_insert_of_ne runs different run
      · rfl
  | read id => rfl
  | delete id =>
      simp only [perform, RunRepository.delete, MemoryRepository.delete]
      split
      · exact (SortedMap.get?_erase runs id other).trans (if_neg different)
      · rfl

theorem answersOn_memory (id : String) (calls : List RepositoryCall)
    (same : runs.get? id = alone.get? id) :
    answersOn id calls (performAll calls (MemoryRepository.mk runs)).1 =
      (performAll (calls.filter (fun call => call.id == id)) (MemoryRepository.mk alone)).1 := by
  induction calls generalizing runs alone with
  | nil => rfl
  | cons call calls ih =>
      by_cases own : call.id = id
      · subst own
        obtain ⟨answer, after⟩ := perform_memory_congr same
        have later := ih after
        rw [answersOn] at later ⊢
        rw [List.filter_cons_of_pos (by simp)]
        simp only [performAll]
        rw [List.zip_cons_cons, List.filter_cons_of_pos (by simp), List.map_cons, later, answer]
      · -- A call on another id is passed over, and it leaves the run of this one as it was.
        have later := ih ((get?_perform_memory_of_ne (Ne.symm own)).trans same)
        rw [answersOn] at later ⊢
        rw [List.filter_cons_of_neg (by simpa using own)]
        simp only [performAll]
        rw [List.zip_cons_cons, List.filter_cons_of_neg (by simpa using own), later]

end Memory

section Files

variable {call : RepositoryCall} {name : String}

theorem entry?_save (run : WorkflowRun) (directory : Directory) (notFile : name ≠ run.id ++ ".json")
    (notDraft : name ≠ draftName run.id) :
    (save run (run.id ++ ".json") ⟨directory⟩).2.directory.entry? name = directory.entry? name := by
  have saved : ∀ entries : SortedMap DirectoryEntry,
      (save run (run.id ++ ".json") ⟨.present entries⟩).2.directory.entry? name =
        entries.get? name := by
    intro entries
    rw [save_present run (draftName_ne run.id)]
    split
    · rfl
    · split
      · rfl
      · split
        · exact SortedMap.get?_insert_of_ne entries notDraft _
        · exact (get?_settled_of_ne run entries notFile).trans (if_neg notDraft)
  cases directory with
  | present entries => exact saved entries
  | absent => exact saved ∅
  | blocked fault => rfl

theorem entry?_perform (directory : Directory) (valid : isRunId call.id = true)
    (notFile : name ≠ call.id ++ ".json") (notDraft : name ≠ draftName call.id) :
    (call.perform (DirectoryRepository.mk directory)).2.directory.entry? name =
      directory.entry? name := by
  cases call with
  | create run =>
      simp only [id] at valid
      simp only [perform, RunRepository.create, DirectoryRepository.create, fileName, valid,
        if_true]
      split
      · rfl
      · exact entry?_save run directory notFile notDraft
  | update run =>
      simp only [id] at valid
      simp only [perform, RunRepository.update, DirectoryRepository.update, fileName, valid,
        if_true]
      split
      · exact entry?_save run directory notFile notDraft
      · rfl
  | read id => rfl
  | delete id =>
      simp only [RepositoryCall.id] at valid
      simp only [perform, RunRepository.delete, DirectoryRepository.delete, fileName, valid,
        if_true]
      split
      next left removed => exact Directory.entry?_remove removed notFile
      next fault refused => rfl

theorem alikeBut_perform {before after : SortedMap DirectoryEntry} (valid : isRunId call.id = true)
    (same : ∀ other, other ≠ name → after.get? other = before.get? other)
    (notFile : call.id ++ ".json" ≠ name) (notDraft : draftName call.id ≠ name) :
    AlikeBut name (call.perform (DirectoryRepository.mk (.present before)))
      (call.perform (DirectoryRepository.mk (.present after))) := by
  have contained : (Directory.present after).contains (call.id ++ ".json") =
      (Directory.present before).contains (call.id ++ ".json") :=
    congrArg Option.isSome (same _ notFile)
  cases call with
  | create run =>
      refine AlikeBut.map ?_ _
      simp only [id] at valid notFile notDraft contained
      simp only [RunRepository.create, DirectoryRepository.create, fileName, valid, if_true,
        contained]
      split
      · exact ⟨rfl, same⟩
      · exact AlikeBut.save run same notFile notDraft
  | update run =>
      refine AlikeBut.map ?_ _
      simp only [id] at valid notFile notDraft contained
      simp only [RunRepository.update, DirectoryRepository.update, fileName, valid, if_true,
        contained]
      split
      · exact AlikeBut.save run same notFile notDraft
      · exact ⟨rfl, same⟩
  | read id => exact ⟨congrArg (Except.map some) (read_congr (same _ notFile)), same⟩
  | delete id => exact (AlikeBut.delete id same notFile).map _

end Files

structure Spares (call : RepositoryCall) (other : String) (directory : Directory) : Prop where
  /-- The file of the other id is neither the file nor the draft that the call writes. -/
  unshadowed : other ++ ".json" ∉
    [call.id ++ ".json", Directory.withExtension (call.id ++ ".json") "json.tmp"]
  unchanged : (call.perform (DirectoryRepository.mk directory)).2.directory.entry?
    (other ++ ".json") = directory.entry? (other ++ ".json")
  /-- Whatever the other id has instead of its file, the outcome is the same. -/
  unread : ∀ changed, directory.SameBut (other ++ ".json") changed →
    AlikeBut (other ++ ".json") (call.perform (DirectoryRepository.mk directory))
      (call.perform (DirectoryRepository.mk changed))

theorem spares {call : RepositoryCall} {other : String} (directory : Directory)
    (valid : isRunId call.id = true) (different : other ≠ call.id) :
    call.Spares other directory where
  unshadowed := by
    rw [← draftName_eq valid]
    simp [fileName_ne different, fileName_ne_draftName call.id other]
  unchanged := entry?_perform directory valid (fileName_ne different) (fileName_ne_draftName _ _)
  unread changed same := by
    match directory, changed, same with
    | .present before, .present after, same =>
        exact alikeBut_perform valid same (fileName_ne different).symm
          (fileName_ne_draftName call.id other).symm
    | .absent, .absent, _ | .blocked _, .blocked _, rfl =>
        exact ⟨rfl, Directory.SameBut.refl _ _⟩

end RepositoryCall

/-- A directory that was not there or empty, and that only a repository writes, answers calls of all
kinds as a map in memory does, as long as no file operation fails. Every beginning of the calls is
such a sequence too, so after each of them there is one file for each run and no draft, and what
is kept under one id is neither changed nor read by a call on another. -/
theorem directory_refines_memory {directory : Directory} {calls : List RepositoryCall}
    (start : directory = .absent ∨ directory = .present ∅)
    (valid : ∀ call ∈ calls, isRunId call.id = true)
    (unfailed : ∀ answer ∈ (performAll calls (DirectoryRepository.mk directory)).1,
      Unfailed answer) :
    let kept := performAll calls (DirectoryRepository.mk directory)
    let remembered := performAll calls MemoryRepository.empty
    kept.1 = remembered.1 ∧
      kept.2.directory.names.Perm (remembered.2.runs.keys.map (· ++ ".json")) ∧
      (∀ id, draftName id ∉ kept.2.directory.names) ∧
      (∀ id run, remembered.2.runs.get? id = some run →
        kept.2.directory.entry? (id ++ ".json") = some (.file run.toText.toUTF8)) ∧
      (∀ id, answersOn id calls kept.1 =
        (performAll (calls.filter (fun call => call.id == id)) MemoryRepository.empty).1) ∧
      ∀ (call : RepositoryCall) (other : String), isRunId call.id = true → other ≠ call.id →
        call.Spares other kept.2.directory := by
  intro kept remembered
  have refines : Refines kept remembered := by
    rcases (Directory.Mirrors.begin start).performAll valid with refines | ⟨_, failed⟩
    · exact refines
    · exact absurd rfl (unfailed _ failed .nameTooLong)
  obtain ⟨answers, mirrors⟩ := refines
  refine ⟨answers, mirrors.names_perm, mirrors.draftName_notMem, mirrors.file, ?_, ?_⟩
  · intro id
    rw [answers]
    exact answersOn_memory id calls rfl
  · intro call other valid different
    exact spares kept.2.directory valid different

def RepositoryCall.lookalikes : List RepositoryCall :=
  let run (id : String) : WorkflowRun := .fresh id "environment" ⟨"only", ∅, none⟩ .epoch
  [.create (run "a"), .create (run "a.json"), .create (run "a"), .update (run "a.json.tmp"),
    .create (run "a.json.tmp"), .delete "a", .read "a", .read "a.json"]

theorem directory_refines_memory_of_lookalikes :
    let kept := performAll lookalikes DirectoryRepository.empty
    (∀ call ∈ lookalikes, isRunId call.id = true) ∧
      (∀ answer ∈ kept.1, Unfailed answer) ∧
      kept.1 =
        [.ok none, .ok none, .error (.alreadyExists "a"), .error (.notFound "a.json.tmp"),
          .ok none, .ok none, .error (.notFound "a"),
          .ok (some (.fresh "a.json" "environment" ⟨"only", ∅, none⟩ .epoch))] ∧
      kept.2.directory.names.Perm ["a.json.json", "a.json.tmp.json"] ∧
      (RepositoryCall.delete "a.json").Spares "a.json.tmp" kept.2.directory := by
  intro kept
  have valid : ∀ call ∈ lookalikes, isRunId call.id = true := by decide +kernel
  have short : ∀ call ∈ lookalikes, Directory.isLongName (draftName call.id) = false := by
    decide +kernel
  have unfailed : ∀ answer ∈ kept.1, Unfailed answer :=
    (Directory.Mirrors.begin (.inl rfl)).forall_unfailed valid short
  obtain ⟨answers, names, _, _, _, apart⟩ := directory_refines_memory (.inl rfl) valid unfailed
  refine ⟨valid, unfailed, answers.trans (by decide +kernel), ?_, ?_⟩
  · exact names.trans (.of_eq (by decide +kernel))
  · exact apart _ _ (by decide +kernel) (by decide)

end PrivateComputation
