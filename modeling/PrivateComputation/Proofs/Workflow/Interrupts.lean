import PrivateComputation.Workflow.Interrupts

/-!
Interrupts in any number. They are counted in eight bits, so the answers come round again after 256
of them; what has been asked for stays asked for.
-/

namespace PrivateComputation

/-- What an interrupt should be answered, by how many there were before it. -/
def InterruptAction.intended : Nat → InterruptAction
  | 0 => .cancelWorkflow
  | 1 => .immediateExit
  | _ => .ignore

theorem InterruptAction.intended_eq_ignore_iff (earlier : Nat) :
    intended earlier = .ignore ↔ 2 ≤ earlier := by
  match earlier with
  | 0 | 1 => simp [intended]
  | earlier + 2 => simp [intended]

namespace Interrupts

def afterSignals (interrupts : Interrupts) : Nat → Interrupts
  | 0 => interrupts
  | signals + 1 => (interrupts.afterSignals signals).receive.2

/-! ## One signal -/

section Receive

variable (interrupts : Interrupts)

theorem receive_count : interrupts.receive.2.count = interrupts.count + 1 := by
  unfold receive
  split
  · rfl
  · split <;> rfl

theorem receive_action : interrupts.receive.1 = .intended interrupts.count.toNat := by
  unfold receive
  split
  next zero => rw [zero]; rfl
  next some =>
    have notZero : interrupts.count.toNat ≠ 0 := fun zero => some (UInt8.toNat_inj.mp zero)
    split
    next one => rw [one]; rfl
    next more =>
      have notOne : interrupts.count.toNat ≠ 1 := fun one => more (UInt8.toNat_inj.mp one)
      exact ((InterruptAction.intended_eq_ignore_iff _).mpr (by omega)).symm

theorem receive_requests :
    interrupts.receive.2.cancelRequested = (interrupts.cancelRequested || interrupts.count == 0) ∧
      interrupts.receive.2.exitRequested = (interrupts.exitRequested || interrupts.count == 1) := by
  unfold receive
  split
  next zero => simp [zero]
  next some =>
    split
    next one => simp [one]
    next more => simp [some, more]

end Receive

/-! ## Any number of signals -/

theorem requests_afterSignals (interrupts : Interrupts) (signals : Nat) :
    (interrupts.cancelRequested = true →
        (interrupts.afterSignals signals).cancelRequested = true) ∧
      (interrupts.exitRequested = true →
        (interrupts.afterSignals signals).exitRequested = true) := by
  induction signals with
  | zero => exact ⟨id, id⟩
  | succ signals ih =>
      obtain ⟨cancel, exit⟩ := receive_requests (interrupts.afterSignals signals)
      constructor
      · intro asked
        rw [afterSignals, cancel, ih.1 asked, Bool.true_or]
      · intro asked
        rw [afterSignals, exit, ih.2 asked, Bool.true_or]

theorem count_afterSignals (signals : Nat) :
    (none.afterSignals signals).count = UInt8.ofNat signals := by
  induction signals with
  | zero => rfl
  | succ signals ih => rw [afterSignals, receive_count, ih, UInt8.ofNat_add]; rfl

theorem requests_none_afterSignals (signals : Nat) :
    (none.afterSignals signals).cancelRequested = decide (0 < signals) ∧
      (none.afterSignals signals).exitRequested = decide (1 < signals) := by
  induction signals with
  | zero => exact ⟨rfl, rfl⟩
  | succ signals ih =>
      obtain ⟨cancel, exit⟩ := receive_requests (none.afterSignals signals)
      rw [afterSignals, cancel, exit, ih.1, ih.2, count_afterSignals]
      match signals with
      | 0 | 1 => exact ⟨rfl, rfl⟩
      | signals + 2 => simp

end Interrupts

open Interrupts

/-- The answers to signals follow a count in eight bits. They are the intended ones for the first 256
signals, and behind these for all but the first two of every 256; a cancellation has been asked for
from the first signal on and an exit from the second on, and no signals take either back. -/
theorem interrupts_answered (earlier : Nat) :
    let before := Interrupts.none.afterSignals earlier
    before.receive.1 = .intended (earlier % 256) ∧
    (before.receive.1 = .intended earlier ↔ earlier < 256 ∨ 2 ≤ earlier % 256) ∧
    before.cancelRequested = decide (0 < earlier) ∧ before.exitRequested = decide (1 < earlier) ∧
    ∀ (interrupts : Interrupts) (further : Nat),
      (interrupts.cancelRequested = true →
        (interrupts.afterSignals further).cancelRequested = true) ∧
      (interrupts.exitRequested = true →
        (interrupts.afterSignals further).exitRequested = true) := by
  intro before
  have answer : before.receive.1 = .intended (earlier % 256) := by
    rw [receive_action, count_afterSignals, UInt8.toNat_ofNat']
  obtain ⟨cancel, exit⟩ := requests_none_afterSignals earlier
  refine ⟨answer, ?_, cancel, exit, requests_afterSignals⟩
  rw [answer]
  by_cases few : earlier < 256
  · simp [few, Nat.mod_eq_of_lt few]
  · have ignored := (InterruptAction.intended_eq_ignore_iff earlier).mpr (by omega)
    rw [ignored, InterruptAction.intended_eq_ignore_iff]
    simp [few]

theorem interrupts_answered_of_many :
    (Interrupts.none.afterSignals 299).receive.1 = .intended 299 ∧
      (Interrupts.none.afterSignals 299).exitRequested = true ∧
      ((Interrupts.none.afterSignals 299).afterSignals 257).exitRequested = true := by
  obtain ⟨-, intended, -, exit, kept⟩ := interrupts_answered 299
  have asked : (Interrupts.none.afterSignals 299).exitRequested = true := exit
  exact ⟨intended.mpr (.inr (by decide)), asked, (kept _ 257).2 asked⟩

/-- The 257th signal asks to cancel the workflow again, and the 258th one to leave at once. -/
theorem interrupts_answered_again :
    (Interrupts.none.afterSignals 256).receive.1 = .cancelWorkflow ∧
      (Interrupts.none.afterSignals 257).receive.1 = .immediateExit ∧
      InterruptAction.intended 256 = .ignore ∧ InterruptAction.intended 257 = .ignore := by
  decide +kernel

end PrivateComputation
