import PrivateComputation.Proofs.Repository.Leavings

/-!
The draft that a write leaves where it is cut short makes no difference to any later call. With it
every interrupted write is all or nothing, for all that can be read.
-/

namespace PrivateComputation

open DirectoryRepository RepositoryCall

/-! ## Drafts left behind -/

structure Directory.DraftAside (id : String) (one two : Directory) : Prop where
  same : one.SameBut (draftName id) two
  folder : two.entry? (draftName id) = some .folder ↔ one.entry? (draftName id) = some .folder

namespace Directory.DraftAside

variable {id : String} {one two : Directory} {before after : SortedMap DirectoryEntry}

theorem refl (id : String) (directory : Directory) : directory.DraftAside id directory :=
  ⟨SameBut.refl _ _, Iff.rfl⟩

theorem cases (aside : one.DraftAside id two) :
    one = two ∨ ∃ before after, one = .present before ∧ two = .present after := by
  cases one with
  | present before =>
      cases two with
      | present after => exact .inr ⟨before, after, rfl, rfl⟩
      | absent | blocked fault => cases aside.same
  | absent | blocked fault => exact .inl aside.same

theorem of_entries (same : ∀ name, name ≠ draftName id → after.get? name = before.get? name)
    (folder : after.get? (draftName id) = some .folder ↔
      before.get? (draftName id) = some .folder) :
    (present before).DraftAside id (present after) := ⟨same, folder⟩

theorem folder_iff (aside : (present before).DraftAside id (present after)) (name : String) :
    after.get? name = some .folder ↔ before.get? name = some .folder := by
  by_cases draft : name = draftName id
  · rw [draft]
    exact aside.folder
  · rw [aside.same name draft]

theorem insert (aside : (present before).DraftAside id (present after)) (name : String)
    (entry : DirectoryEntry) :
    (present (before.insert name entry)).DraftAside id (present (after.insert name entry)) := by
  refine of_entries ?_ ?_
  · intro other different
    rw [SortedMap.get?_insert, SortedMap.get?_insert, aside.same other different]
  · rw [SortedMap.get?_insert, SortedMap.get?_insert]
    split
    · exact Iff.rfl
    · exact aside.folder

theorem erase (aside : (present before).DraftAside id (present after)) (name : String) :
    (present (before.erase name)).DraftAside id (present (after.erase name)) := by
  refine of_entries ?_ ?_
  · intro other different
    rw [SortedMap.get?_erase, SortedMap.get?_erase, aside.same other different]
  · rw [SortedMap.get?_erase, SortedMap.get?_erase]
    split
    · exact Iff.rfl
    · exact aside.folder

theorem settled (aside : (present before).DraftAside id (present after)) (run : WorkflowRun)
    (name : String) :
    (present (settled run name before)).DraftAside id
      (present (DirectoryRepository.settled run name after)) :=
  ((aside.insert _ _).erase _).insert _ _

theorem settled_eq (aside : (present before).DraftAside id (present after)) {run : WorkflowRun}
    (own : run.id = id) (name : String) :
    DirectoryRepository.settled run name after = DirectoryRepository.settled run name before := by
  refine SortedMap.ext_get? ?_
  intro other
  simp only [DirectoryRepository.settled, SortedMap.get?_insert, SortedMap.get?_erase]
  split
  · rfl
  · split
    · rfl
    next different => exact aside.same other (own ▸ different)

theorem contains (aside : (present before).DraftAside id (present after)) (other : String) :
    (present after).contains (other ++ ".json") = (present before).contains (other ++ ".json") :=
  congrArg Option.isSome (aside.same _ (fileName_ne_draftName id other))

end Directory.DraftAside

structure AsideDraft {α : Type} (id : String) (one two : RepositoryResult α × DirectoryRepository) :
    Prop where
  answer : two.1 = one.1
  left : one.2.directory.DraftAside id two.2.directory

namespace Directory.DraftAside

variable {id : String} {one two : Directory} {before after : SortedMap DirectoryEntry}

theorem save (aside : (present before).DraftAside id (present after)) (run : WorkflowRun) :
    AsideDraft id (save run (run.id ++ ".json") ⟨present before⟩)
      (save run (run.id ++ ".json") ⟨present after⟩) := by
  rw [save_present run (draftName_ne run.id), save_present run (draftName_ne run.id)]
  simp only [aside.folder_iff]
  split
  · exact ⟨rfl, aside⟩
  · split
    · exact ⟨rfl, aside⟩
    · split
      · exact ⟨rfl, aside.insert _ _⟩
      · exact ⟨rfl, aside.settled run _⟩

theorem save_own (aside : (present before).DraftAside id (present after)) {run : WorkflowRun}
    (own : run.id = id) (saved : (DirectoryRepository.save run (run.id ++ ".json")
      ⟨present after⟩).1 = .ok ()) :
    (DirectoryRepository.save run (run.id ++ ".json") ⟨present after⟩).2 =
      (DirectoryRepository.save run (run.id ++ ".json") ⟨present before⟩).2 := by
  rw [save_present run (draftName_ne run.id)] at saved ⊢
  rw [save_present run (draftName_ne run.id)]
  simp only [aside.folder_iff] at saved ⊢
  split at saved
  · cases saved
  next short =>
    split at saved
    · cases saved
    next free =>
      split at saved
      · cases saved
      next unblocked =>
        simp only [short, free, unblocked, Bool.false_eq_true, if_false, aside.settled_eq own]

theorem delete (aside : (present before).DraftAside id (present after)) (other : String) :
    AsideDraft id (delete other ⟨present before⟩) (delete other ⟨present after⟩) := by
  simp only [DirectoryRepository.delete, fileName]
  by_cases valid : isRunId other = true
  · rw [if_pos valid]
    simp only [remove_present, aside.same _ (fileName_ne_draftName id other)]
    cases isLongName (other ++ ".json") with
    | true => exact ⟨rfl, aside⟩
    | false =>
        cases before.get? (other ++ ".json") with
        | none => exact ⟨rfl, aside⟩
        | some entry =>
            cases entry with
            | folder => exact ⟨rfl, aside⟩
            | file content => exact ⟨rfl, aside.erase _⟩
  · rw [if_neg valid]
    exact ⟨rfl, aside⟩

theorem create (aside : (present before).DraftAside id (present after)) (run : WorkflowRun) :
    AsideDraft id (DirectoryRepository.create run ⟨present before⟩)
      (DirectoryRepository.create run ⟨present after⟩) := by
  by_cases valid : isRunId run.id = true
  · simp only [DirectoryRepository.create, fileName, valid, if_true, aside.contains]
    split
    · exact ⟨rfl, aside⟩
    · exact aside.save run
  · simp only [DirectoryRepository.create, fileName, valid, Bool.false_eq_true, if_false]
    exact ⟨rfl, aside⟩

theorem update (aside : (present before).DraftAside id (present after)) (run : WorkflowRun) :
    AsideDraft id (update run ⟨present before⟩) (update run ⟨present after⟩) := by
  by_cases valid : isRunId run.id = true
  · simp only [DirectoryRepository.update, fileName, valid, if_true, aside.contains]
    split
    · exact aside.save run
    · exact ⟨rfl, aside⟩
  · simp only [DirectoryRepository.update, fileName, valid, Bool.false_eq_true, if_false]
    exact ⟨rfl, aside⟩

theorem perform (aside : one.DraftAside id two) (call : RepositoryCall) :
    AsideDraft id (call.perform (DirectoryRepository.mk one))
      (call.perform (DirectoryRepository.mk two)) := by
  rcases aside.cases with rfl | ⟨before, after, rfl, rfl⟩
  · exact ⟨rfl, refl _ _⟩
  · cases call with
    | create run =>
        obtain ⟨answer, left⟩ := aside.create run
        exact ⟨congrArg (Except.map (fun _ => none)) answer, left⟩
    | update run =>
        obtain ⟨answer, left⟩ := aside.update run
        exact ⟨congrArg (Except.map (fun _ => none)) answer, left⟩
    | read other =>
        have same := read_congr (aside.same _ (fileName_ne_draftName id other))
        exact ⟨congrArg (Except.map some) same, aside⟩
    | delete other =>
        obtain ⟨answer, left⟩ := aside.delete other
        exact ⟨congrArg (Except.map (fun _ => none)) answer, left⟩

theorem perform_own (aside : one.DraftAside id two) {call : RepositoryCall} {run : WorkflowRun}
    (writes : call.Writes run) (own : run.id = id)
    (written : (call.perform (DirectoryRepository.mk two)).1 = .ok none) :
    (call.perform (DirectoryRepository.mk two)).2 =
      (call.perform (DirectoryRepository.mk one)).2 := by
  have before := (aside.perform call).answer.symm.trans written
  rcases aside.cases with rfl | ⟨_, _, rfl, rfl⟩
  · rfl
  · obtain ⟨saved, result⟩ := writes.saved written
    obtain ⟨_, first⟩ := writes.saved before
    exact result.trans ((aside.save_own own saved).trans first.symm)

theorem planned (aside : (present before).DraftAside id (present after)) (call : RepositoryCall) :
    call.planned (present after) = call.planned (present before) := by
  cases call with
  | read other | delete other => rfl
  | create run | update run =>
      by_cases valid : isRunId run.id = true
      · simp only [RepositoryCall.planned, fileName, valid, if_true, aside.contains]
      · simp only [RepositoryCall.planned, fileName, valid, Bool.false_eq_true, if_false]

theorem interrupted (aside : one.DraftAside id two) (call : RepositoryCall) (cut : Interruption) :
    (call.interrupted cut ⟨one⟩).directory.DraftAside id
      (call.interrupted cut ⟨two⟩).directory := by
  rcases aside.cases with rfl | ⟨before, after, rfl, rfl⟩
  · exact refl _ _
  · simp only [RepositoryCall.interrupted, aside.planned]
    rcases call.planned_cases (present before) with nothing | ⟨run, _, _, steps⟩
    · rw [nothing, Interruption.carriedOut_nil]
      exact aside
    · rw [steps]
      rcases cut.carriedOut_writeSteps run (run.id ++ ".json") with
        nothing | made | ⟨content, drafted⟩ | all
      · rw [nothing]
        exact aside
      · rw [made]
        exact aside
      · rw [drafted, perform_draft, perform_draft]
        simp only [aside.folder_iff]
        split
        · exact aside
        · exact aside.insert _ _
      · rw [all]
        exact (aside.save run).left

theorem attempts (aside : one.DraftAside id two) (attempts : List Attempt) :
    (Attempt.performAll attempts ⟨two⟩).1 = (Attempt.performAll attempts ⟨one⟩).1 := by
  induction attempts generalizing one two with
  | nil => rfl
  | cons attempt attempts ih =>
      cases attempt with
      | whole call =>
          obtain ⟨answer, left⟩ := aside.perform call
          simp only [Attempt.performAll, Attempt.perform, answer]
          exact congrArg _ (ih left)
      | interrupted call cut =>
          simp only [Attempt.performAll, Attempt.perform]
          exact congrArg _ (ih (aside.interrupted call cut))

theorem withoutDraft (id : String) (directory : Directory) :
    (DirectoryRepository.withoutDraft id ⟨directory⟩).directory.DraftAside id directory := by
  simp only [DirectoryRepository.withoutDraft]
  cases directory with
  | absent => exact refl _ _
  | blocked fault => cases fault <;> exact refl _ _
  | present entries =>
      rw [remove_present]
      cases isLongName (draftName id) with
      | true => exact refl _ _
      | false =>
          cases there : entries.get? (draftName id) with
          | none => exact refl _ _
          | some entry =>
              cases entry with
              | folder => exact refl _ _
              | file content =>
                  refine of_entries ?_ ?_
                  · intro name different
                    rw [SortedMap.get?_erase, if_neg different]
                  · rw [SortedMap.get?_erase, there]
                    simp

end Directory.DraftAside

/-! ## Interrupted writes -/

/-- What is left of a directory that was not there or empty by calls of a repository, each made as a
whole or cut short. -/
def Directory.Written (directory : Directory) : Prop :=
  ∃ start attempts, (start = .absent ∨ start = .present ∅) ∧
    (Attempt.performAll attempts (DirectoryRepository.mk start)).2.directory = directory

theorem Directory.Written.orderly {directory : Directory} (written : directory.Written) :
    directory.Orderly := by
  obtain ⟨start, attempts, begin, rfl⟩ := written
  refine Orderly.attempts ?_ attempts
  rcases begin with rfl | rfl
  · exact .absent
  · exact Orderly.absent.create rfl

theorem interrupted_reads {call : RepositoryCall} {run : WorkflowRun}
    (valid : isRunId run.id = true) (writes : call.Writes run) (cut : Interruption)
    (directory : Directory) :
    (ReadsAlike run.id ⟨directory⟩ (call.interrupted cut ⟨directory⟩) ∨
        read run.id (call.interrupted cut ⟨directory⟩) = .ok run) ∧
      ∀ other, other ≠ run.id →
        ReadsAlike other ⟨directory⟩ (call.interrupted cut ⟨directory⟩) := by
  rcases call.interrupted_cases cut directory with
    same | ⟨other, entries, left, wrote, _, made, result, leaves⟩
  · rw [same]
    exact ⟨.inl (.inl rfl), fun _ _ => .inl rfl⟩
  · have own : other = run := by
      rcases writes with rfl | rfl <;> rcases wrote with wrote | wrote <;> cases wrote <;> rfl
    subst own
    rw [result]
    exact ⟨leaves.reads_own made valid, fun _ different => leaves.readsAlike made different⟩

/-- Wherever a creation or an update is cut short, its run reads as before, which is as an older run
or as none, or as the new one, and all others read as before. Later calls, these too cut short or
not, answer as they would without the draft, and the next one that writes the run takes the draft
away. An id that is too long for a file reads as one that is not there only as long as there is no
directory. -/
theorem interrupted_write {directory : Directory} {call : RepositoryCall} {run : WorkflowRun}
    (written : directory.Written) (valid : isRunId run.id = true) (writes : call.Writes run)
    (cut : Interruption) :
    let before := DirectoryRepository.mk directory
    let after := call.interrupted cut before
    (ReadsAlike run.id before after ∨ read run.id after = .ok run) ∧
      (read run.id before = .error (.notFound run.id) ∨
        (∃ old : WorkflowRun, old.id = run.id ∧ read run.id before = .ok old) ∨
        Directory.isLongName (run.id ++ ".json") = true ∧
          read run.id before = .error (.file .nameTooLong)) ∧
      (∀ other, other ≠ run.id → ReadsAlike other before after) ∧
      (∀ attempts, (Attempt.performAll attempts after).1 =
        (Attempt.performAll attempts (after.withoutDraft run.id)).1) ∧
      ∀ (again : WorkflowRun) (next : RepositoryCall), next.Writes again → again.id = run.id →
        (next.perform after).1 = .ok none →
          next.perform after = next.perform (after.withoutDraft run.id) := by
  intro before after
  have aside := Directory.DraftAside.withoutDraft run.id after.directory
  have reads := interrupted_reads valid writes cut directory
  refine ⟨reads.1, written.orderly.read valid, reads.2, aside.attempts, ?_⟩
  intro again next writes own written
  exact Prod.ext (aside.perform next).answer (aside.perform_own writes own written)

namespace RepositoryCall

def sampleRun (id environmentId : String) : WorkflowRun :=
  .fresh id environmentId ⟨"only", ∅, none⟩ .epoch

variable {run : WorkflowRun} (valid : isRunId run.id = true)
include valid

theorem planned_first : (RepositoryCall.create run).planned .absent =
    writeSteps run (run.id ++ ".json") := by
  simp [planned, fileName, valid, Directory.contains, Directory.entry?]

theorem create_absent (entries : SortedMap DirectoryEntry)
    (absent : entries.get? (run.id ++ ".json") = none) :
    DirectoryRepository.create run ⟨.present entries⟩ =
      save run (run.id ++ ".json") ⟨.present entries⟩ := by
  simp [DirectoryRepository.create, fileName, valid, Directory.contains, Directory.entry?, absent]

theorem create_first : DirectoryRepository.create run .empty =
    save run (run.id ++ ".json") ⟨.present ∅⟩ := by
  simp only [DirectoryRepository.create, fileName, valid]
  rfl

end RepositoryCall

/-- A creation that gets no further than the first bytes of its draft, and the same once more. -/
theorem interrupted_write_of_started_draft :
    let run := sampleRun "run" "environment"
    let after := (RepositoryCall.create run).interrupted ⟨1, some 3⟩ .empty
    Directory.absent.Written ∧ isRunId run.id = true ∧ (RepositoryCall.create run).Writes run ∧
      after.directory.contains (draftName run.id) = true ∧
      ((ReadsAlike run.id .empty after ∨ read run.id after = .ok run) ∧
        ReadsAlike "other" .empty after) ∧
      (RepositoryCall.create run).perform after =
        (RepositoryCall.create run).perform (after.withoutDraft run.id) := by
  intro run after
  have start : Directory.absent.Written := ⟨.absent, [], .inl rfl, rfl⟩
  have valid : isRunId run.id = true := by decide +kernel
  have short : Directory.isLongName (draftName run.id) = false := by decide +kernel
  have writes : (RepositoryCall.create run).Writes run := .inl rfl
  obtain ⟨entries, left, draft, absent⟩ : ∃ entries : SortedMap DirectoryEntry,
      after = ⟨.present entries⟩ ∧
        entries.get? (draftName run.id) = some (.file (run.toText.toUTF8.extract 0 3)) ∧
        entries.get? (run.id ++ ".json") = none := by
    refine ⟨_, ?_, SortedMap.get?_insert_self ∅ (draftName run.id) _, ?_⟩
    · have drafted := perform_draft (draftName run.id) (run.toText.toUTF8.extract 0 3) ∅
      rw [if_neg (by simp [short])] at drafted
      simp only [after, interrupted, DirectoryRepository.empty, planned_first valid]
      exact congrArg DirectoryRepository.mk drafted
    · exact SortedMap.get?_insert_of_ne ∅ (draftName_ne run.id) _
  have created : ((RepositoryCall.create run).perform after).1 = .ok none := by
    have saved : (create run ⟨.present entries⟩).1 = .ok () := by
      rw [create_absent valid entries absent, save_present run (draftName_ne run.id)]
      simp [short, draft, absent]
    rw [left]
    exact congrArg (Except.map (fun _ => none)) saved
  obtain ⟨own, _, others, _, again⟩ := interrupted_write start valid writes ⟨1, some 3⟩
  refine ⟨start, valid, writes, ?_, ⟨own, others "other" (by decide)⟩, ?_⟩
  · rw [left, Directory.contains, Directory.entry?, draft, Option.isSome_some]
  · exact again run _ writes rfl created

def longId (bytes : Nat) : String := String.ofList (List.replicate bytes 'a')

theorem utf8ByteSize_longId (bytes : Nat) : (longId bytes).utf8ByteSize = bytes := by
  induction bytes with
  | zero => rfl
  | succ bytes ih =>
      have one : (String.singleton 'a').utf8ByteSize = 1 := by decide
      rw [longId, List.replicate_succ, String.ofList_cons, String.utf8ByteSize_append, one]
      rw [longId] at ih
      omega

theorem isRunId_longId (bytes : Nat) : isRunId (longId (bytes + 1)) = true := by
  have letter : 'a'.isAlphanum = true := rfl
  simp [isRunId, longId, List.replicate_succ, letter]

/-- A creation that fails at its draft makes a directory, and with it an id that is too long for a
file is no longer answered as one that is not there. -/
theorem interrupted_write_noticed_of_long_id :
    let run := sampleRun (longId 251) "environment"
    let after := (RepositoryCall.create run).interrupted ⟨1, none⟩ .empty
    Directory.absent.Written ∧ isRunId run.id = true ∧
      create run .empty = (.error (.file .nameTooLong), after) ∧
      read run.id .empty = .error (.notFound run.id) ∧
      read run.id after = .error (.file .nameTooLong) ∧
      ¬(read run.id after = read run.id .empty ∨ read run.id after = .ok run) := by
  intro run after
  have valid : isRunId run.id = true := isRunId_longId 250
  have long : Directory.isLongName (run.id ++ ".json") = true := by
    have size : (run.id ++ ".json").utf8ByteSize = 256 := by
      rw [String.utf8ByteSize_append]
      exact congrArg (· + 5) (utf8ByteSize_longId 251)
    simp [Directory.isLongName, size]
  have left : after = ⟨.present ∅⟩ := by
    simp only [after, interrupted, DirectoryRepository.empty, planned_first valid]
    rfl
  have first : read run.id .empty = .error (.notFound run.id) := read_absent valid
  have later : read run.id after = .error (.file .nameTooLong) := by
    rw [left]
    exact read_long valid long ∅
  refine ⟨⟨.absent, [], .inl rfl, rfl⟩, valid, ?_, first, later, ?_⟩
  · rw [create_first valid, save_present run (draftName_ne run.id), if_pos (long_draft long), left]
  · rw [first, later]
    rintro (same | same) <;> cases same

end PrivateComputation
