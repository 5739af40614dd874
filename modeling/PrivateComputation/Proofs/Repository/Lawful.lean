import PrivateComputation.Repository.Unreliable

/-!
What can be relied on of a repository: a write that goes well can be read back, and a write that
fails leaves the old run or the new one.
-/

namespace PrivateComputation

class LawfulRunRepository (ρ : Type) [RunRepository ρ] : Prop where
  read_create : ∀ (run : WorkflowRun) (repository : ρ),
    (RunRepository.create run repository).1 = .ok () →
      RunRepository.read run.id (RunRepository.create run repository).2 = .ok run
  read_update : ∀ (run : WorkflowRun) (repository : ρ),
    (RunRepository.update run repository).1 = .ok () →
      RunRepository.read run.id (RunRepository.update run repository).2 = .ok run
  read_failed_update : ∀ (run : WorkflowRun) (repository : ρ),
    RunRepository.read run.id (RunRepository.update run repository).2 =
        RunRepository.read run.id repository ∨
      RunRepository.read run.id (RunRepository.update run repository).2 = .ok run

/-- A repository in which a run that was taken once can be written again and again. -/
class DurableRunRepository (ρ : Type) [RunRepository ρ] extends LawfulRunRepository ρ where
  Holds : ρ → String → Prop
  holds_create : ∀ (run : WorkflowRun) (repository : ρ),
    (RunRepository.create run repository).1 = .ok () →
      Holds (RunRepository.create run repository).2 run.id
  holds_update : ∀ (run : WorkflowRun) (repository : ρ), Holds repository run.id →
    (RunRepository.update run repository).1 = .ok () ∧
      Holds (RunRepository.update run repository).2 run.id

namespace MemoryRepository

theorem read_insert (run : WorkflowRun) (runs : SortedMap WorkflowRun) :
    read run.id ⟨runs.insert run.id run⟩ = .ok run := by
  simp [read]

instance : LawfulRunRepository MemoryRepository where
  read_create run repository created := by
    simp only [RunRepository.create, create] at created ⊢
    split at created
    · cases created
    next absent =>
      rw [if_neg absent]
      exact read_insert run repository.runs
  read_update run repository updated := by
    simp only [RunRepository.update, update] at updated ⊢
    split at updated
    next present =>
      rw [if_pos present]
      exact read_insert run repository.runs
    · cases updated
  read_failed_update run repository := by
    simp only [RunRepository.update, update]
    split
    · exact .inr (read_insert run repository.runs)
    · exact .inl rfl

instance : DurableRunRepository MemoryRepository where
  Holds repository id := repository.runs.contains id = true
  holds_create run repository created := by
    simp only [RunRepository.create, create] at created ⊢
    split at created
    · cases created
    next absent =>
      rw [if_neg absent]
      simp [SortedMap.contains]
  holds_update run repository present := by
    simp only [RunRepository.update, update]
    rw [if_pos present]
    simp [SortedMap.contains]

end MemoryRepository

namespace Unreliable

variable {ρ : Type} {operation : ρ → RepositoryResult Unit × ρ}

theorem write_ok {unreliable : Unreliable ρ} (passed : (write operation unreliable).1 = .ok ()) :
    (operation unreliable.repository).1 = .ok () ∧
      (write operation unreliable).2.repository = (operation unreliable.repository).2 := by
  simp only [write] at passed ⊢
  generalize unreliable.fates.head? = fate at passed ⊢
  rcases fate with _ | _ | ⟨_, _ | _⟩
  · exact ⟨passed, rfl⟩
  · exact ⟨passed, rfl⟩
  · cases passed
  · cases passed

theorem write_repository (operation : ρ → RepositoryResult Unit × ρ)
    (unreliable : Unreliable ρ) :
    (write operation unreliable).2.repository = unreliable.repository ∨
      (write operation unreliable).2.repository = (operation unreliable.repository).2 := by
  simp only [write]
  split
  · exact .inr rfl
  · exact .inr rfl
  · exact .inr rfl
  · exact .inl rfl

instance [RunRepository ρ] [LawfulRunRepository ρ] : LawfulRunRepository (Unreliable ρ) where
  read_create run unreliable created := by
    obtain ⟨passed, same⟩ := write_ok created
    change RunRepository.read run.id (write _ unreliable).2.repository = .ok run
    rw [same]
    exact LawfulRunRepository.read_create run unreliable.repository passed
  read_update run unreliable updated := by
    obtain ⟨passed, same⟩ := write_ok updated
    change RunRepository.read run.id (write _ unreliable).2.repository = .ok run
    rw [same]
    exact LawfulRunRepository.read_update run unreliable.repository passed
  read_failed_update run unreliable := by
    change RunRepository.read run.id (write (RunRepository.update run) unreliable).2.repository =
        RunRepository.read run.id unreliable.repository ∨
      RunRepository.read run.id (write (RunRepository.update run) unreliable).2.repository =
        .ok run
    rcases write_repository (RunRepository.update run) unreliable with same | same
    · exact .inl (by rw [same])
    · rw [same]
      exact LawfulRunRepository.read_failed_update run unreliable.repository

end Unreliable

end PrivateComputation
