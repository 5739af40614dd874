import Mathlib.Data.List.Nodup
import PrivateComputation.Proofs.Repository.Directory
import PrivateComputation.Proofs.SortedMap
import PrivateComputation.Repository.Call

/-!
Directories that hold the same runs as a map in memory, and that every call keeps in step with it.
-/

namespace PrivateComputation

/-! ## File names -/

/-- The name of a file with its extension, the part from its last dot on, replaced. A dot in front
starts no extension. -/
def Directory.withExtension (name extension : String) : String :=
  let stem := ((name.toList.reverse.dropWhile (· != '.')).drop 1).reverse
  (if stem.isEmpty then name else String.ofList stem) ++ "." ++ extension

namespace DirectoryRepository

theorem fileName_ne {id other : String} (different : other ≠ id) :
    other ++ ".json" ≠ id ++ ".json" := by
  intro same
  exact different ((String.append_left_inj ".json").mp same)

theorem fileName_ne_draftName (id other : String) : other ++ ".json" ≠ draftName id := by
  intro same
  have last := congrArg (fun name => name.toList.getLast?) same
  simp [draftName] at last

/-- The extension that gives way to that of a draft is always the one a file name was given: dots
in the id stay. -/
theorem draftName_eq {id : String} (valid : isRunId id = true) :
    draftName id = Directory.withExtension (id ++ ".json") "json.tmp" := by
  have named : id.toList.isEmpty = false := by
    simp only [isRunId, Bool.and_eq_true, Bool.not_eq_true'] at valid
    exact valid.1.1
  have stem : (((id ++ ".json").toList.reverse.dropWhile (· != '.')).drop 1).reverse =
      id.toList := by
    simp
  have json : ".json.tmp" = "." ++ "json.tmp" := by decide
  rw [draftName, Directory.withExtension, stem, named, json, ← String.append_assoc]
  simp

example : Directory.withExtension "a.json.json" "json.tmp" = draftName "a.json" := by
  decide +kernel

theorem get?_settled_of_ne (run : WorkflowRun) {name other : String}
    (entries : SortedMap DirectoryEntry) (different : other ≠ name) :
    (settled run name entries).get? other =
      if other = draftName run.id then none else entries.get? other := by
  rw [settled, SortedMap.get?_insert_of_ne _ different, SortedMap.get?_erase]
  by_cases draft : other = draftName run.id
  · rw [if_pos draft, if_pos draft]
  · rw [if_neg draft, if_neg draft, SortedMap.get?_insert_of_ne _ draft]

theorem long_draft {id : String} (long : Directory.isLongName (id ++ ".json") = true) :
    Directory.isLongName (draftName id) = true := by
  refine (Bool.not_eq_false _).mp ?_
  intro short
  rw [short_of_draft short] at long
  cases long

end DirectoryRepository

open DirectoryRepository RepositoryCall

/-! ## Looking into a directory and removing from it -/

theorem Directory.mem_names_iff (directory : Directory) (name : String) :
    name ∈ directory.names ↔ directory.contains name = true := by
  cases directory with
  | present entries => exact SortedMap.mem_keys_iff
  | absent | blocked fault => exact ⟨nofun, nofun⟩

theorem Directory.nodup_names (directory : Directory) : directory.names.Nodup := by
  cases directory with
  | present entries => exact entries.nodup_keys
  | absent | blocked fault => exact List.nodup_nil

theorem Directory.remove_present (entries : SortedMap DirectoryEntry) (name : String) :
    (Directory.present entries).remove name =
      if isLongName name then .error .nameTooLong
      else match entries.get? name with
        | none => .error .missing
        | some .folder => .error .isDirectory
        | some (.file _) => .ok (.present (entries.erase name)) := by
  simp only [Directory.remove, Directory.entriesFor]
  by_cases long : Directory.isLongName name = true
  · rw [if_pos long, if_pos long]
    rfl
  · rw [if_neg long, if_neg long]
    rfl

theorem Directory.remove_file {entries : SortedMap DirectoryEntry} {name : String}
    {content : ByteArray} (short : Directory.isLongName name = false)
    (found : entries.get? name = some (.file content)) :
    (Directory.present entries).remove name = .ok (.present (entries.erase name)) := by
  rw [Directory.remove_present, short, found]
  rfl

theorem Directory.look_for_absent {directory : Directory} {name : String}
    (usable : ∀ fault, directory ≠ .blocked fault) (absent : directory.entry? name = none) :
    (directory.readText name = .error .missing ∧ directory.remove name = .error .missing) ∨
      isLongName name = true ∧ directory.readText name = .error .nameTooLong ∧
        directory.remove name = .error .nameTooLong := by
  cases directory with
  | absent => exact .inl ⟨rfl, rfl⟩
  | blocked fault => exact absurd rfl (usable fault)
  | present entries =>
      simp only [Directory.entry?] at absent
      simp only [Directory.readText, Directory.read, Directory.remove, Directory.entriesFor]
      by_cases long : Directory.isLongName name = true
      · rw [if_pos long]
        exact .inr ⟨long, rfl, rfl⟩
      · rw [if_neg long]
        simp [bind, Except.bind, absent]

/-! ## A directory and a memory that hold the same -/

/-- A directory with one file for each run in memory, under the id of the run, and nothing else. -/
structure Directory.Mirrors (directory : Directory) (runs : SortedMap WorkflowRun) : Prop where
  usable : ∀ fault, directory ≠ .blocked fault
  file : ∀ id run, runs.get? id = some run →
    directory.entry? (id ++ ".json") = some (.file run.toText.toUTF8)
  only : ∀ name entry, directory.entry? name = some entry →
    ∃ id, runs.contains id = true ∧ name = id ++ ".json"
  short : ∀ id, runs.contains id = true → isLongName (draftName id) = false

namespace Directory.Mirrors

variable {directory : Directory} {runs : SortedMap WorkflowRun}

theorem empty : (present ∅).Mirrors ∅ where
  usable _ same := by cases same
  file _ _ held := by cases held
  only _ _ there := by cases there
  short _ held := by cases held

theorem absent_iff : absent.Mirrors runs ↔ (present ∅).Mirrors runs := by
  constructor
  · intro mirrors
    exact ⟨nofun, mirrors.file, mirrors.only, mirrors.short⟩
  · intro mirrors
    exact ⟨nofun, mirrors.file, mirrors.only, mirrors.short⟩

theorem entry? (mirrors : directory.Mirrors runs) (id : String) :
    directory.entry? (id ++ ".json") =
      (runs.get? id).map (fun run => .file run.toText.toUTF8) := by
  cases held : runs.get? id with
  | some run => exact mirrors.file id run held
  | none =>
      refine Option.eq_none_iff_forall_ne_some.mpr ?_
      intro entry there
      obtain ⟨other, contained, same⟩ := mirrors.only _ _ there
      obtain rfl : id = other := (String.append_left_inj ".json").mp same
      rw [SortedMap.contains, held] at contained
      cases contained

theorem contains (mirrors : directory.Mirrors runs) (id : String) :
    directory.contains (id ++ ".json") = runs.contains id := by
  rw [Directory.contains, mirrors.entry?, Option.isSome_map, SortedMap.contains]

theorem entry?_draftName (mirrors : directory.Mirrors runs) (id : String) :
    directory.entry? (draftName id) = none := by
  refine Option.eq_none_iff_forall_ne_some.mpr ?_
  intro entry there
  obtain ⟨other, _, same⟩ := mirrors.only _ _ there
  exact fileName_ne_draftName id other same.symm

theorem names_perm (mirrors : directory.Mirrors runs) :
    directory.names.Perm (runs.keys.map (· ++ ".json")) := by
  have injective : Function.Injective (fun id : String => id ++ ".json") :=
    fun _ _ same => (String.append_left_inj ".json").mp same
  refine (List.perm_ext_iff_of_nodup (nodup_names directory)
    (List.Nodup.map injective runs.nodup_keys)).mpr ?_
  intro name
  rw [mem_names_iff, List.mem_map]
  constructor
  · intro there
    obtain ⟨entry, found⟩ := Option.isSome_iff_exists.mp there
    obtain ⟨id, contained, rfl⟩ := mirrors.only _ _ found
    exact ⟨id, SortedMap.mem_keys_iff.mpr contained, rfl⟩
  · rintro ⟨id, member, rfl⟩
    rw [mirrors.contains]
    exact SortedMap.mem_keys_iff.mp member

theorem draftName_notMem (mirrors : directory.Mirrors runs) (id : String) :
    draftName id ∉ directory.names := by
  rw [mem_names_iff, Directory.contains, mirrors.entry?_draftName]
  simp

variable {entries : SortedMap DirectoryEntry}

theorem settled (mirrors : (present entries).Mirrors runs) (run : WorkflowRun)
    (short : isLongName (draftName run.id) = false) :
    (present (settled run (run.id ++ ".json") entries)).Mirrors (runs.insert run.id run) where
  usable _ same := by cases same
  file id held bound := by
    change SortedMap.get? _ (id ++ ".json") = some (DirectoryEntry.file held.toText.toUTF8)
    rw [SortedMap.get?_insert] at bound
    by_cases same : id = run.id
    · rw [if_pos same] at bound
      cases bound
      rw [same, get?_settled]
    · rw [if_neg same] at bound
      rw [get?_settled_of_ne run entries (fileName_ne same),
        if_neg (fileName_ne_draftName run.id id)]
      exact mirrors.file id held bound
  only name entry there := by
    change SortedMap.get? _ name = some entry at there
    by_cases same : name = run.id ++ ".json"
    · exact ⟨run.id, (SortedMap.contains_insert runs _ _ _).mpr (.inl rfl), same⟩
    · rw [get?_settled_of_ne run entries same] at there
      split at there
      · cases there
      · obtain ⟨id, contained, named⟩ := mirrors.only name entry there
        exact ⟨id, (SortedMap.contains_insert runs _ _ _).mpr (.inr contained), named⟩
  short id contained := by
    rcases (SortedMap.contains_insert runs _ _ _).mp contained with rfl | before
    · exact short
    · exact mirrors.short id before

theorem erased (mirrors : (present entries).Mirrors runs) (id : String) :
    (present (entries.erase (id ++ ".json"))).Mirrors (runs.erase id) where
  usable _ same := by cases same
  file other run bound := by
    change SortedMap.get? _ (other ++ ".json") = _
    rw [SortedMap.get?_erase] at bound ⊢
    by_cases same : other = id
    · rw [if_pos same] at bound
      cases bound
    · rw [if_neg same] at bound
      rw [if_neg (fileName_ne same)]
      exact mirrors.file other run bound
  only name entry there := by
    change SortedMap.get? _ name = some entry at there
    rw [SortedMap.get?_erase] at there
    split at there
    · cases there
    next different =>
      obtain ⟨other, contained, named⟩ := mirrors.only name entry there
      refine ⟨other, (SortedMap.contains_erase runs _ _).mpr ⟨?_, contained⟩, named⟩
      intro same
      exact different (by rw [named, same])
  short other contained :=
    mirrors.short other ((SortedMap.contains_erase runs _ _).mp contained).2

end Directory.Mirrors

/-! ## Calls -/

def Unfailed {α : Type} (answer : RepositoryResult α) : Prop :=
  ∀ fault, answer ≠ .error (.file fault)

structure Refines {α : Type} (outcome : α × DirectoryRepository)
    (expected : α × MemoryRepository) : Prop where
  answer : outcome.1 = expected.1
  mirrors : outcome.2.directory.Mirrors expected.2.runs

/-- A call on an id comes to the same as in memory, or a name made from the id is too long. -/
def Follows {α : Type} (id : String) (outcome : RepositoryResult α × DirectoryRepository)
    (expected : RepositoryResult α × MemoryRepository) : Prop :=
  Refines outcome expected ∨
    Directory.isLongName (draftName id) = true ∧ outcome.1 = .error (.file .nameTooLong)

theorem Follows.map {α β : Type} {id : String} {outcome : RepositoryResult α × DirectoryRepository}
    {expected : RepositoryResult α × MemoryRepository} (follows : Follows id outcome expected)
    (f : α → β) : Follows id (outcome.1.map f, outcome.2) (expected.1.map f, expected.2) := by
  rcases follows with ⟨answer, mirrors⟩ | ⟨long, failed⟩
  · exact .inl ⟨congrArg (Except.map f) answer, mirrors⟩
  · exact .inr ⟨long, congrArg (Except.map f) failed⟩

namespace Directory.Mirrors

variable {directory : Directory} {runs : SortedMap WorkflowRun}

theorem save (mirrors : directory.Mirrors runs) (run : WorkflowRun) :
    Follows run.id (save run (run.id ++ ".json") ⟨directory⟩)
      (.ok (), ⟨runs.insert run.id run⟩) := by
  have saved : ∀ entries : SortedMap DirectoryEntry, (present entries).Mirrors runs →
      Follows run.id (DirectoryRepository.save run (run.id ++ ".json") ⟨.present entries⟩)
        (.ok (), ⟨runs.insert run.id run⟩) := by
    intro entries mirrors
    -- No folder is in the way of the draft or of the file, as there are only files of runs.
    have free : entries.get? (draftName run.id) ≠ some .folder := by
      intro folder
      have nothing := mirrors.entry?_draftName run.id
      rw [Directory.entry?, folder] at nothing
      cases nothing
    have unblocked : entries.get? (run.id ++ ".json") ≠ some .folder := by
      intro folder
      have file := mirrors.entry? run.id
      rw [Directory.entry?, folder] at file
      cases held : runs.get? run.id <;> simp [held] at file
    rw [save_present run (draftName_ne run.id)]
    by_cases long : isLongName (draftName run.id) = true
    · rw [if_pos long]
      exact .inr ⟨long, rfl⟩
    · rw [if_neg long, if_neg free, if_neg unblocked]
      exact .inl ⟨rfl, mirrors.settled run (Bool.eq_false_iff.mpr long)⟩
  cases directory with
  | present entries => exact saved entries mirrors
  | absent => exact saved ∅ (absent_iff.mp mirrors)
  | blocked fault => exact absurd rfl (mirrors.usable fault)

theorem create (mirrors : directory.Mirrors runs) {run : WorkflowRun}
    (valid : isRunId run.id = true) :
    Follows run.id (DirectoryRepository.create run ⟨directory⟩)
      (MemoryRepository.create run ⟨runs⟩) := by
  simp only [DirectoryRepository.create, fileName, valid, if_true, mirrors.contains,
    MemoryRepository.create]
  split
  · exact .inl ⟨rfl, mirrors⟩
  · exact mirrors.save run

theorem update (mirrors : directory.Mirrors runs) {run : WorkflowRun}
    (valid : isRunId run.id = true) :
    Follows run.id (update run ⟨directory⟩) (MemoryRepository.update run ⟨runs⟩) := by
  simp only [DirectoryRepository.update, fileName, valid, if_true, mirrors.contains,
    MemoryRepository.update]
  split
  · exact mirrors.save run
  · exact .inl ⟨rfl, mirrors⟩

theorem read (mirrors : directory.Mirrors runs) {id : String} (valid : isRunId id = true) :
    Follows id (DirectoryRepository.read id ⟨directory⟩, ⟨directory⟩)
      (MemoryRepository.read id ⟨runs⟩, ⟨runs⟩) := by
  have there := mirrors.entry? id
  cases held : runs.get? id with
  | some run =>
      rw [held, Option.map_some] at there
      have short := mirrors.short id (by rw [SortedMap.contains, held]; rfl)
      simp only [MemoryRepository.read, held]
      cases directory with
      | present entries => exact .inl ⟨read_file valid short there, mirrors⟩
      | absent | blocked fault => cases there
  | none =>
      rw [held, Option.map_none] at there
      simp only [DirectoryRepository.read, fileName, valid, if_true, bind, Except.bind,
        MemoryRepository.read, held]
      rcases look_for_absent mirrors.usable there with ⟨missing, _⟩ | ⟨long, failed, _⟩
      · rw [missing]
        exact .inl ⟨rfl, mirrors⟩
      · rw [failed]
        exact .inr ⟨long_draft long, rfl⟩

theorem delete (mirrors : directory.Mirrors runs) {id : String} (valid : isRunId id = true) :
    Follows id (delete id ⟨directory⟩) (MemoryRepository.delete id ⟨runs⟩) := by
  have there := mirrors.entry? id
  simp only [DirectoryRepository.delete, fileName, valid, if_true, MemoryRepository.delete]
  cases held : runs.get? id with
  | some run =>
      rw [held, Option.map_some] at there
      have contained : runs.contains id = true := by rw [SortedMap.contains, held]; rfl
      rw [if_pos contained]
      cases directory with
      | present entries =>
          rw [remove_file (short_of_draft (mirrors.short id contained)) there]
          exact .inl ⟨rfl, mirrors.erased id⟩
      | absent | blocked fault => cases there
  | none =>
      rw [held, Option.map_none] at there
      have uncontained : ¬runs.contains id = true := by rw [SortedMap.contains, held]; nofun
      rw [if_neg uncontained]
      rcases look_for_absent mirrors.usable there with ⟨_, missing⟩ | ⟨long, _, failed⟩
      · rw [missing]
        exact .inl ⟨rfl, mirrors⟩
      · rw [failed]
        exact .inr ⟨long_draft long, rfl⟩

theorem perform (mirrors : directory.Mirrors runs) {call : RepositoryCall}
    (valid : isRunId call.id = true) :
    Follows call.id (call.perform (DirectoryRepository.mk directory))
      (call.perform (MemoryRepository.mk runs)) := by
  cases call with
  | create run => exact (mirrors.create valid).map _
  | update run => exact (mirrors.update valid).map _
  | delete id => exact (mirrors.delete valid).map _
  | read id => exact (mirrors.read valid).map some

/-- All calls come to the same as in memory, or one of the ids is too long and a call fails on
it. -/
theorem performAll (mirrors : directory.Mirrors runs) {calls : List RepositoryCall}
    (valid : ∀ call ∈ calls, isRunId call.id = true) :
    Refines (performAll calls (DirectoryRepository.mk directory))
        (performAll calls (MemoryRepository.mk runs)) ∨
      (∃ call ∈ calls, isLongName (draftName call.id) = true) ∧
        .error (.file .nameTooLong) ∈ (performAll calls (DirectoryRepository.mk directory)).1 := by
  induction calls generalizing directory runs with
  | nil => exact .inl ⟨rfl, mirrors⟩
  | cons call calls ih =>
      -- From the first call that fails on, the two may part, so that the invariant is given up.
      rcases mirrors.perform (valid call List.mem_cons_self) with ⟨answer, kept⟩ | ⟨long, failed⟩
      · rcases ih kept (fun later member => valid later (List.mem_cons_of_mem _ member)) with
          ⟨answers, reached⟩ | ⟨⟨later, member, long⟩, failed⟩
        · exact .inl ⟨congrArg₂ List.cons answer answers, reached⟩
        · exact .inr ⟨⟨later, List.mem_cons_of_mem _ member, long⟩, List.mem_cons_of_mem _ failed⟩
      · refine .inr ⟨⟨call, List.mem_cons_self, long⟩, ?_⟩
        rw [← failed]
        exact List.mem_cons_self

theorem begin (start : directory = .absent ∨ directory = .present ∅) : directory.Mirrors ∅ := by
  rcases start with rfl | rfl
  · exact absent_iff.mpr empty
  · exact empty

end Directory.Mirrors

theorem RepositoryCall.unfailed_memory (call : RepositoryCall) (runs : SortedMap WorkflowRun) :
    Unfailed (call.perform (MemoryRepository.mk runs)).1 := by
  intro fault
  cases call with
  | create run =>
      simp only [perform, RunRepository.create, MemoryRepository.create]
      split <;> simp [Except.map]
  | update run =>
      simp only [perform, RunRepository.update, MemoryRepository.update]
      split <;> simp [Except.map]
  | delete id =>
      simp only [perform, RunRepository.delete, MemoryRepository.delete]
      split <;> simp [Except.map]
  | read id =>
      simp only [perform, RunRepository.read, MemoryRepository.read]
      split <;> simp [Except.map]

theorem RepositoryCall.forall_unfailed_memory (calls : List RepositoryCall)
    (runs : SortedMap WorkflowRun) :
    ∀ answer ∈ (performAll calls (MemoryRepository.mk runs)).1, Unfailed answer := by
  induction calls generalizing runs with
  | nil =>
      intro answer member
      cases member
  | cons call calls ih =>
      intro answer member
      rcases List.mem_cons.mp member with rfl | later
      · exact call.unfailed_memory runs
      · exact ih _ answer later

theorem Directory.Mirrors.forall_unfailed {directory : Directory} {runs : SortedMap WorkflowRun}
    (mirrors : directory.Mirrors runs) {calls : List RepositoryCall}
    (valid : ∀ call ∈ calls, isRunId call.id = true)
    (short : ∀ call ∈ calls, Directory.isLongName (draftName call.id) = false) :
    ∀ answer ∈ (RepositoryCall.performAll calls (DirectoryRepository.mk directory)).1,
      Unfailed answer := by
  rcases mirrors.performAll valid with ⟨answers, _⟩ | ⟨⟨call, member, long⟩, _⟩
  · rw [answers]
    exact forall_unfailed_memory calls runs
  · rw [short call member] at long
    cases long

end PrivateComputation
