import Mathlib.Data.List.Perm.Basic
import PrivateComputation.Json.Sorted
import PrivateComputation.Proofs.Outcomes
import PrivateComputation.Proofs.SortedMap

/-!
Equality of JSON documents. A document that has been read lists the members of its objects in the
order of their names, so that a comparison in the order of the lists finds out whether two documents
say the same, in whichever order their members were written.
-/

namespace PrivateComputation

namespace Json

/-- Two documents say the same: arrays have alike items at the same places, and objects have alike
members of the same names, wherever they are listed. -/
inductive Alike : Json → Json → Prop
  | null : Alike .null .null
  | bool (value : Bool) : Alike (.bool value) (.bool value)
  | number {left right : Number} (same : left.sameValue right = true) :
      Alike (.number left) (.number right)
  | string (value : String) : Alike (.string value) (.string value)
  | array {lefts rights : List Json} (length : lefts.length = rights.length)
      (items : ∀ (place : Nat) (left right : Json), lefts[place]? = some left →
        rights[place]? = some right → Alike left right) : Alike (.array lefts) (.array rights)
  | object {lefts rights : List (String × Json)}
      (names : ∀ name, name ∈ lefts.map Prod.fst ↔ name ∈ rights.map Prod.fst)
      (values : ∀ (name : String) (left right : Json), (name, left) ∈ lefts →
        (name, right) ∈ rights → Alike left right) : Alike (.object lefts) (.object rights)

/-! ## Comparing in the order of the lists -/

theorem sameValue_number (value : Number) : value.sameValue value = true := by
  cases value <;> simp [Number.sameValue, Binary64.sameValue]

mutual

theorem sameValue_refl : ∀ json : Json, json.sameValue json = true
  | .null => rfl
  | .bool value => by rw [sameValue, beq_self_eq_true]
  | .number value => by rw [sameValue, sameValue_number]
  | .string value => by rw [sameValue, beq_self_eq_true]
  | .array items => by rw [sameValue, sameItems_refl items]
  | .object members => by rw [sameValue, sameMembers_refl members]

theorem sameItems_refl : ∀ items : List Json, sameItems items items = true
  | [] => rfl
  | item :: items => by
      rw [sameItems, sameValue_refl item, sameItems_refl items, Bool.and_self]

theorem sameMembers_refl : ∀ members : List (String × Json), sameMembers members members = true
  | [] => rfl
  | (_, value) :: members => by
      rw [sameMembers, beq_self_eq_true, sameValue_refl value, sameMembers_refl members]
      rfl

end

/-! ## What it finds out -/

end Json

end PrivateComputation
