import PrivateComputation.Json.Printer
import PrivateComputation.Json.Reader

/-!
Integers are read back from their decimal digits.
-/

namespace PrivateComputation

theorem le_ofDigitChars (digits : List Char) (value : Nat) :
    value ≤ Nat.ofDigitChars 10 digits value := by
  rw [Nat.ofDigitChars_eq_ofDigitChars_zero]
  have power : 1 ≤ 10 ^ digits.length := Nat.one_le_pow _ _ (by omega)
  have scaled := Nat.mul_le_mul_right value power
  omega

theorem extendSignificand_eq (digits : List Char) (significand taken : Nat)
    (small : Nat.ofDigitChars 10 digits significand < UInt64.size) :
    extendSignificand significand taken digits =
      (Nat.ofDigitChars 10 digits significand, taken + digits.length) := by
  induction digits generalizing significand taken with
  | nil => simp [extendSignificand]
  | cons digit digits ih =>
      have step : Nat.ofDigitChars 10 (digit :: digits) significand =
          Nat.ofDigitChars 10 digits (significand * 10 + (digit.toNat - 48)) := by
        rw [Nat.ofDigitChars_cons, Nat.mul_comm]
        rfl
      rw [step] at small ⊢
      have bound := le_ofDigitChars digits (significand * 10 + (digit.toNat - 48))
      have fits : ¬UInt64.size ≤ significand * 10 + (digit.toNat - 48) := by omega
      rw [extendSignificand, if_neg fits, ih _ _ small, List.length_cons]
      congr 1
      omega

def EndsNumber (rest : List Char) : Prop :=
  ∀ c, rest.head? = some c → c.isDigit = false ∧ c ≠ '.' ∧ c ≠ 'e' ∧ c ≠ 'E'

theorem endsNumber_nil : EndsNumber [] := by
  intro c found
  cases found

theorem endsNumber_cons {c : Char} {rest : List Char}
    (ends : c.isDigit = false ∧ c ≠ '.' ∧ c ≠ 'e' ∧ c ≠ 'E') : EndsNumber (c :: rest) := by
  intro other found
  cases found
  exact ends

theorem isDigit_toDigits (number : Nat) : ∀ c ∈ Nat.toDigits 10 number, c.isDigit = true := by
  intro c member
  exact Nat.isDigit_of_mem_toDigits (by omega) (by omega) member

theorem takeWhile_digits {digits rest : List Char} (all : ∀ c ∈ digits, c.isDigit = true)
    (ends : EndsNumber rest) :
    (digits ++ rest).takeWhile Char.isDigit = digits ∧
      (digits ++ rest).dropWhile Char.isDigit = rest := by
  have stops : rest.takeWhile Char.isDigit = [] ∧ rest.dropWhile Char.isDigit = rest := by
    cases rest with
    | nil => exact ⟨rfl, rfl⟩
    | cons c behind =>
        have other := (ends c rfl).1
        simp [other]
  rw [List.takeWhile_append_of_pos all, List.dropWhile_append_of_pos all, stops.1, stops.2,
    List.append_nil]
  exact ⟨rfl, rfl⟩

theorem readDigits_append {digits rest : List Char} (all : ∀ c ∈ digits, c.isDigit = true)
    (nonempty : digits ≠ []) (ends : EndsNumber rest) :
    readDigits (digits ++ rest) = .ok (digits, rest) := by
  obtain ⟨taken, dropped⟩ := takeWhile_digits all ends
  rw [readDigits, taken, dropped]
  cases digits with
  | nil => exact absurd rfl nonempty
  | cons c digits => rfl

theorem readFraction_of_ends {rest : List Char} (ends : EndsNumber rest) :
    readFraction rest = .ok (none, rest) := by
  cases rest with
  | nil => rfl
  | cons c behind =>
      have other := (ends c rfl).2.1
      unfold readFraction
      split
      next same => exact absurd (List.cons.inj same).1 other
      next => rfl

theorem readPower_of_ends {rest : List Char} (ends : EndsNumber rest) :
    readPower rest = .ok (none, rest) := by
  cases rest with
  | nil => rfl
  | cons c behind =>
      obtain ⟨_, _, lower, upper⟩ := ends c rfl
      simp [readPower, lower, upper]

theorem head_toDigits {number : Nat} (zero : (Nat.toDigits 10 number).head? = some '0') :
    (Nat.toDigits 10 number).length = 1 := by
  induction number using Nat.strongRecOn with
  | ind number ih =>
      by_cases small : number < 10
      · rw [Nat.toDigits_of_lt_base small]
        rfl
      · have split : Nat.toDigits 10 number =
            Nat.toDigits 10 (number / 10) ++ [(number % 10).digitChar] := by
          rw [Nat.toDigits_of_base_le (by omega) (by omega)]
        have front : (Nat.toDigits 10 number).head? = (Nat.toDigits 10 (number / 10)).head? := by
          rw [split, List.head?_append]
          cases shape : Nat.toDigits 10 (number / 10) with
          | nil => exact absurd shape Nat.toDigits_ne_nil
          | cons c digits => rfl
        rw [front] at zero
        have single := ih (number / 10) (by omega) zero
        obtain ⟨c, one⟩ := List.length_eq_one_iff.mp single
        rw [one] at zero
        cases zero
        have value := @Nat.ofDigitChars_ten_toDigits (number / 10)
        rw [one] at value
        have none : number / 10 = 0 := value.symm
        omega

theorem readMagnitude_toDigits {negative : Bool} {number : Nat} {rest : List Char}
    (ends : EndsNumber rest) :
    readMagnitude negative (Nat.toDigits 10 number ++ rest) =
      .ok (numberValue negative (Nat.toDigits 10 number) none none, rest) := by
  have digits := readDigits_append (isDigit_toDigits number) Nat.toDigits_ne_nil ends
  have unpadded : ¬((Nat.toDigits 10 number).head? = some '0' ∧
      (Nat.toDigits 10 number).length ≠ 1) := by
    rintro ⟨zero, long⟩
    exact long (head_toDigits zero)
  simp only [readMagnitude, digits, bind, Except.bind]
  rw [if_neg (by simpa using unpadded)]
  simp only [readFraction_of_ends ends, readPower_of_ends ends]

theorem numberValue_natural {number : Nat} (small : number < UInt64.size) :
    numberValue false (Nat.toDigits 10 number) none none = some (.integer number) := by
  have value := @Nat.ofDigitChars_ten_toDigits number
  have all := extendSignificand_eq (Nat.toDigits 10 number) 0 0 (by omega)
  rw [value] at all
  simp [numberValue, all]

theorem numberValue_negative {number : Nat} (positive : 0 < number)
    (small : number ≤ 9223372036854775808) :
    numberValue true (Nat.toDigits 10 number) none none = some (.integer (-(number : Int))) := by
  have value := @Nat.ofDigitChars_ten_toDigits number
  have size : UInt64.size = 18446744073709551616 := rfl
  have all := extendSignificand_eq (Nat.toDigits 10 number) 0 0 (by omega)
  rw [value] at all
  simp [numberValue, all, positive, small]

def ExactInteger (value : Int) : Prop := -9223372036854775808 ≤ value ∧ value < 18446744073709551616

theorem exactInteger_natCast {value : Nat} (small : value < 18446744073709551616) :
    ExactInteger value := by
  constructor <;> omega

theorem toChars_integer (value : Int) :
    (Number.integer value).toChars =
      if 0 ≤ value then Nat.toDigits 10 value.toNat
      else '-' :: Nat.toDigits 10 (-value).toNat := by
  simp only [Number.toChars, Int.toString_eq_repr, Int.repr_eq_if]
  split
  · exact Nat.toList_repr
  · rw [String.toList_append, Nat.toList_repr]
    rfl

theorem head_toDigits_isDigit (number : Nat) :
    ∃ c digits, Nat.toDigits 10 number = c :: digits ∧ c.isDigit = true := by
  cases shape : Nat.toDigits 10 number with
  | nil => exact absurd shape Nat.toDigits_ne_nil
  | cons c digits =>
      have digit := isDigit_toDigits number c
      rw [shape] at digit
      exact ⟨c, digits, rfl, digit List.mem_cons_self⟩

theorem readNumber_toChars {value : Int} (kept : ExactInteger value) {rest : List Char}
    (ends : EndsNumber rest) :
    readNumber ((Number.integer value).toChars ++ rest) = .ok (some (.integer value), rest) := by
  obtain ⟨low, high⟩ := kept
  have size : UInt64.size = 18446744073709551616 := rfl
  rw [toChars_integer]
  by_cases natural : 0 ≤ value
  · rw [if_pos natural]
    have unsigned : readNumber (Nat.toDigits 10 value.toNat ++ rest) =
        readMagnitude false (Nat.toDigits 10 value.toNat ++ rest) := by
      obtain ⟨c, digits, shape, digit⟩ := head_toDigits_isDigit value.toNat
      rw [shape]
      unfold readNumber
      split
      next same =>
        rw [(List.cons.inj same).1] at digit
        cases digit
      next => rfl
    have same : (value.toNat : Int) = value := by omega
    rw [unsigned, readMagnitude_toDigits ends, numberValue_natural (by omega), same]
  · rw [if_neg natural, List.cons_append]
    have same : -((-value).toNat : Int) = value := by omega
    change readMagnitude true _ = _
    rw [readMagnitude_toDigits ends, numberValue_negative (by omega) (by omega), same]

end PrivateComputation
