import PrivateComputation.Proofs.Repository.Directory

/-!
Repositories in which a refused write leaves no trace: the run is read back as before it. It is so
of runs kept in memory and in files, where a draft at most stays behind.
-/

namespace PrivateComputation

variable {ρ : Type}

class AtomicRunRepository (ρ : Type) [RunRepository ρ] : Prop extends LawfulRunRepository ρ where
  read_refused : ∀ (run : WorkflowRun) (repository : ρ) (fault : RepositoryFault),
    (RunRepository.update run repository).1 = .error fault →
      RunRepository.read run.id (RunRepository.update run repository).2 =
        RunRepository.read run.id repository

instance : AtomicRunRepository MemoryRepository where
  read_refused run repository fault refused := by
    simp only [RunRepository.update, MemoryRepository.update] at refused ⊢
    split at refused
    · cases refused
    next absent => rw [if_neg absent]

namespace DirectoryRepository

theorem read_save_refused (run : WorkflowRun) (entries : SortedMap DirectoryEntry)
    {fault : RepositoryFault}
    (refused : (save run (run.id ++ ".json") ⟨.present entries⟩).1 = .error fault) :
    read run.id (save run (run.id ++ ".json") ⟨.present entries⟩).2 =
      read run.id ⟨.present entries⟩ := by
  rw [save_present run (draftName_ne run.id)] at refused ⊢
  by_cases long : Directory.isLongName (draftName run.id) = true
  · rw [if_pos long]
  · rw [if_neg long] at refused ⊢
    by_cases folder : entries.get? (draftName run.id) = some .folder
    · rw [if_pos folder]
    · rw [if_neg folder] at refused ⊢
      by_cases blocked : entries.get? (run.id ++ ".json") = some .folder
      · rw [if_pos blocked]
        exact read_congr (SortedMap.get?_insert_of_ne entries (draftName_ne run.id) _)
      · rw [if_neg blocked] at refused
        cases refused

instance : AtomicRunRepository DirectoryRepository where
  read_refused run repository fault refused := by
    change (update run repository).1 = .error fault at refused
    change read run.id (update run repository).2 = read run.id repository
    by_cases valid : isRunId run.id = true
    · simp only [update, fileName, valid, if_true] at refused ⊢
      by_cases there : repository.directory.contains (run.id ++ ".json") = true
      · rw [if_pos there] at refused ⊢
        obtain ⟨directory⟩ := repository
        cases directory with
        | present entries => exact read_save_refused run entries refused
        | absent | blocked fault => cases there
      · rw [if_neg there]
    · simp only [update, fileName, valid, Bool.false_eq_true, if_false]

end DirectoryRepository

theorem Unreliable.write_cases (operation : ρ → RepositoryResult Unit × ρ)
    (unreliable : Unreliable ρ) :
    ((write operation unreliable).1 = (operation unreliable.repository).1 ∧
        (write operation unreliable).2.repository = (operation unreliable.repository).2) ∨
      (write operation unreliable).2.repository = unreliable.repository ∨
      ∃ fault, .fails fault true ∈ unreliable.fates := by
  cases next : unreliable.fates.head? with
  | none =>
      left
      simp [write, next]
  | some fate =>
      cases fate with
      | passes =>
          left
          simp [write, next]
      | fails fault written =>
          right
          cases written with
          | false =>
              left
              simp only [write, next]
          | true =>
              right
              exact ⟨fault, List.mem_of_mem_head? next⟩

namespace Refusing

instance [RunRepository ρ] [LawfulRunRepository ρ] : LawfulRunRepository (Refusing ρ) where
  read_create run refusing := LawfulRunRepository.read_create run refusing.toUnreliable
  read_update run refusing := LawfulRunRepository.read_update run refusing.toUnreliable
  read_failed_update run refusing :=
    LawfulRunRepository.read_failed_update run refusing.toUnreliable

instance [RunRepository ρ] [AtomicRunRepository ρ] : AtomicRunRepository (Refusing ρ) where
  read_refused run refusing fault refused := by
    change (Unreliable.write (RunRepository.update run) refusing.toUnreliable).1 = .error fault
      at refused
    change RunRepository.read run.id
        (Unreliable.write (RunRepository.update run) refusing.toUnreliable).2.repository =
      RunRepository.read run.id refusing.repository
    rcases Unreliable.write_cases (RunRepository.update run) refusing.toUnreliable with
      ⟨result, left⟩ | same | ⟨other, written⟩
    · rw [result] at refused
      rw [left]
      exact AtomicRunRepository.read_refused run refusing.repository fault refused
    · rw [same]
    · exact absurd written (refusing.refused other)

end Refusing

end PrivateComputation
