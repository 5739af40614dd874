import PrivateComputation.Repository.Basic

/-!
A repository some writes of which fail, in front of any other.
-/

namespace PrivateComputation

variable {ρ : Type}

/-- What becomes of a write. One that fails may still have been carried out. -/
inductive WriteFate where
  | passes
  | fails (fault : FileFault) (written : Bool)
  deriving DecidableEq

structure Unreliable (ρ : Type) where
  repository : ρ
  /-- The fates of the writes to come; those behind the list pass. -/
  fates : List WriteFate

namespace Unreliable

def write (operation : ρ → RepositoryResult Unit × ρ) (unreliable : Unreliable ρ) :
    RepositoryResult Unit × Unreliable ρ :=
  let outcome := operation unreliable.repository
  let fates := unreliable.fates.tail
  match unreliable.fates.head? with
  | none | some .passes => (outcome.1, ⟨outcome.2, fates⟩)
  | some (.fails fault true) => (.error (.file fault), ⟨outcome.2, fates⟩)
  | some (.fails fault false) => (.error (.file fault), ⟨unreliable.repository, fates⟩)

instance [RunRepository ρ] : RunRepository (Unreliable ρ) where
  create run := write (RunRepository.create run)
  read id unreliable := RunRepository.read id unreliable.repository
  update run := write (RunRepository.update run)
  delete id := write (RunRepository.delete id)

theorem write_fates (operation : ρ → RepositoryResult Unit × ρ) (unreliable : Unreliable ρ) :
    (write operation unreliable).2.fates = unreliable.fates.tail := by
  simp only [write]
  split <;> rfl

end Unreliable

/-- A repository some writes of which are refused. One that is refused is not carried out. -/
structure Refusing (ρ : Type) extends Unreliable ρ where
  refused : ∀ fault, .fails fault true ∉ fates

namespace Refusing

def write (operation : ρ → RepositoryResult Unit × ρ) (refusing : Refusing ρ) :
    RepositoryResult Unit × Refusing ρ :=
  let outcome := Unreliable.write operation refusing.toUnreliable
  have refused : ∀ fault, .fails fault true ∉ outcome.2.fates := by
    intro fault later
    rw [Unreliable.write_fates] at later
    exact refusing.refused fault (List.mem_of_mem_tail later)
  (outcome.1, ⟨outcome.2, refused⟩)

instance [RunRepository ρ] : RunRepository (Refusing ρ) where
  create run := write (RunRepository.create run)
  read id refusing := RunRepository.read id refusing.repository
  update run := write (RunRepository.update run)
  delete id := write (RunRepository.delete id)

end Refusing

end PrivateComputation
