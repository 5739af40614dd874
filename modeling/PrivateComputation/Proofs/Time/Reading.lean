import Mathlib.Algebra.Group.Nat.Defs
import PrivateComputation.Time.Reader

/-!
Points in time are read back from the text that they are written as.
-/

namespace PrivateComputation

/-! ## Numbers of a fixed width -/

namespace TimeReader

theorem isDigit_eq (c : Char) : isDigit c = c.isDigit := by
  simp only [isDigit, Char.isDigit, Char.le_def]

theorem value_eq (digits : List Char) : value digits = Nat.ofDigitChars 10 digits 0 := by
  rw [value, Nat.ofDigitChars_eq_foldl]
  simp only [Nat.mul_comm]
  rfl

theorem number_append {digits rest : List Char} {width : Nat}
    (all : ∀ c ∈ digits, c.isDigit = true) (nonempty : digits ≠ [])
    (fits : digits.length ≤ width)
    (stops : digits.length = width ∨ ∀ c, rest.head? = some c → c.isDigit = false) :
    number width (digits ++ rest) = .ok (value digits, rest) := by
  have same : isDigit = Char.isDigit := funext isDigit_eq
  have taken : ((digits ++ rest).take width).takeWhile isDigit = digits := by
    rw [same, List.take_append, List.take_of_length_le fits,
      List.takeWhile_append_of_pos all]
    have nothing : (rest.take (width - digits.length)).takeWhile Char.isDigit = [] := by
      rcases stops with full | other
      · simp [full]
      · cases shape : rest.take (width - digits.length) with
        | nil => rfl
        | cons c behind =>
            have head : rest.head? = some c := by
              cases rest with
              | nil => simp at shape
              | cons d others =>
                  cases left : width - digits.length with
                  | zero => simp [left] at shape
                  | succ count =>
                      rw [left, List.take_succ_cons] at shape
                      rw [List.head?_cons, (List.cons.inj shape).1]
            simp [other c head]
    rw [nothing, List.append_nil]
  rw [number, taken]
  cases digits with
  | nil => exact absurd rfl nonempty
  | cons c digits => simp

end TimeReader

namespace Instant

theorem isDigit_padded (width number : Nat) : ∀ c ∈ padded width number, c.isDigit = true := by
  intro c member
  simp only [padded, Nat.toString_eq_repr, Nat.toList_repr, List.mem_append] at member
  rcases member with zero | digit
  · rw [List.eq_of_mem_replicate zero]
    rfl
  · exact Nat.isDigit_of_mem_toDigits (by omega) (by omega) digit

theorem padded_ne_nil (width number : Nat) : padded width number ≠ [] := by
  simp [padded]

theorem length_padded {width number : Nat} (positive : 0 < width) (small : number < 10 ^ width) :
    (padded width number).length = width := by
  have bound := (Nat.length_toDigits_le_iff (by omega) positive).mpr small
  simp only [padded, Nat.toString_eq_repr, Nat.toList_repr, List.length_append,
    List.length_replicate]
  omega

theorem value_padded (width number : Nat) : TimeReader.value (padded width number) = number := by
  simp [TimeReader.value_eq, padded, Nat.ofDigitChars_append]

theorem skipBlanks_padded (width number : Nat) (rest : List Char) :
    skipBlanks (padded width number ++ rest) = padded width number ++ rest := by
  cases shape : padded width number with
  | nil => exact absurd shape (padded_ne_nil width number)
  | cons c digits =>
      have digit := isDigit_padded width number c (shape ▸ List.mem_cons_self)
      have solid : isBlank c = false := by
        simp only [Char.isDigit, Bool.and_eq_true, decide_eq_true_eq] at digit
        have low : 48 ≤ c.toNat := digit.1
        have high : c.toNat ≤ 57 := digit.2
        simp only [isBlank, Bool.or_eq_false_iff, Bool.and_eq_false_iff, decide_eq_false_iff_not,
          beq_eq_false_iff_ne]
        omega
      simp [skipBlanks, solid]

theorem number_padded {width number : Nat} (positive : 0 < width) (small : number < 10 ^ width)
    (rest : List Char) :
    TimeReader.number width (padded width number ++ rest) = .ok (number, rest) := by
  have size := length_padded positive small
  rw [TimeReader.number_append (isDigit_padded width number) (padded_ne_nil width number)
    (by omega) (.inl size), value_padded]

theorem field_padded {low high number : Nat} (bounds : low ≤ number ∧ number ≤ high)
    (small : number < 100) (rest : List Char) :
    TimeReader.field low high (padded 2 number ++ rest) = .ok (number, rest) := by
  have read := number_padded (show 0 < 2 by omega) (show number < 10 ^ 2 by omega) rest
  simp only [TimeReader.field, skipBlanks_padded, read, bind, Except.bind]
  rw [if_pos (by simpa using bounds)]

/-! ## Parts of a time -/

theorem longNumber_padded {number : Nat} (small : number < 9223372036854775808)
    {rest : List Char} (stops : ∀ c, rest.head? = some c → c.isDigit = false) (width : Nat) :
    TimeReader.longNumber (padded width number ++ rest) = .ok (number, rest) := by
  have fits : (padded width number).length ≤ (padded width number ++ rest).length := by simp
  have read := TimeReader.number_append (isDigit_padded width number) (padded_ne_nil width number)
    fits (.inr stops)
  simp only [TimeReader.longNumber, read, value_padded, bind, Except.bind]
  rw [if_neg (by omega)]

theorem year_yearChars {year : Int} (known : Date.firstYear ≤ year ∧ year ≤ Date.lastYear)
    (rest : List Char) :
    TimeReader.year (yearChars year ++ '-' :: rest) = .ok (year, '-' :: rest) := by
  have first : Date.firstYear = -262143 := rfl
  have last : Date.lastYear = 262142 := rfl
  have bounds : (-2147483648 ≤ year && year ≤ 2147483647) = true := by
    simp only [Bool.and_eq_true, decide_eq_true_eq]
    omega
  have stops : ∀ c, ('-' :: rest).head? = some c → c.isDigit = false := by
    intro c found
    cases found
    rfl
  have long := @longNumber_padded year.natAbs (by omega) ('-' :: rest) stops 4
  unfold yearChars
  split
  next plain =>
    have read := number_padded (show 0 < 4 by omega) (show year.toNat < 10 ^ 4 by omega)
      ('-' :: rest)
    have same : (year.toNat : Int) = year := by omega
    cases shape : padded 4 year.toNat with
    | nil => exact absurd shape (padded_ne_nil 4 year.toNat)
    | cons c digits =>
        have digit := isDigit_padded 4 year.toNat c (shape ▸ List.mem_cons_self)
        have blanks := skipBlanks_padded 4 year.toNat ('-' :: rest)
        rw [shape, List.cons_append] at read blanks
        have minus : c ≠ '-' := by
          rintro rfl
          cases digit
        have plus : c ≠ '+' := by
          rintro rfl
          cases digit
        rw [List.cons_append]
        simp only [TimeReader.year, blanks]
        split
        next same => exact absurd (List.cons.inj same).1 minus
        next same => exact absurd (List.cons.inj same).1 plus
        next =>
          simp only [read, bind, Except.bind, pure, Except.pure, same]
          rw [if_pos bounds]
  next signed =>
    rw [List.cons_append]
    by_cases negative : year < 0
    · have same : -(year.natAbs : Int) = year := by omega
      have solid : isBlank '-' = false := by decide
      simp only [TimeReader.year, skipBlanks, if_pos negative, List.dropWhile_cons, solid,
        Bool.false_eq_true, if_false, long, bind, Except.bind, pure, Except.pure, same]
      rw [if_pos bounds]
    · have same : (year.natAbs : Int) = year := by omega
      have solid : isBlank '+' = false := by decide
      simp only [TimeReader.year, skipBlanks, if_neg negative, List.dropWhile_cons, solid,
        Bool.false_eq_true, if_false, long, bind, Except.bind, pure, Except.pure, same]
      rw [if_pos bounds]

theorem separator_cons {mark : Char} (solid : isBlank mark = false) (rest : List Char) :
    TimeReader.separator mark (mark :: rest) = .ok rest := by
  simp [TimeReader.separator, skipBlanks, solid]

theorem fraction_digits {digits nanosecond : Nat} (positive : 0 < digits)
    (most : digits ≤ 9) (small : nanosecond < 10 ^ digits) :
    TimeReader.fraction ('.' :: padded digits nanosecond ++ ['Z']) =
      .ok (nanosecond * 10 ^ (9 - digits), ['Z']) := by
  have size := length_padded positive small
  have read := @TimeReader.number_append (padded digits nanosecond) ['Z'] 9
    (isDigit_padded digits nanosecond) (padded_ne_nil digits nanosecond) (by omega)
    (.inr (by intro c found; cases found; rfl))
  have stays : ['Z'].dropWhile TimeReader.isDigit = ['Z'] := by decide
  have count : (padded digits nanosecond ++ ['Z']).length - ['Z'].length = digits := by
    simp [size]
  rw [List.cons_append]
  simp only [TimeReader.fraction, read, value_padded, bind, Except.bind, stays, count]
  rfl

theorem fraction_fractionChars {nanosecond : Nat} (small : nanosecond < 1000000000) :
    TimeReader.fraction (fractionChars nanosecond ++ ['Z']) = .ok (nanosecond, ['Z']) := by
  unfold fractionChars
  split
  next zero =>
    subst zero
    rfl
  split
  next millis =>
    have whole : nanosecond / 1000000 * 10 ^ (9 - 3) = nanosecond := by omega
    rw [fraction_digits (by omega) (by omega) (by omega), whole]
  split
  next micros =>
    have whole : nanosecond / 1000 * 10 ^ (9 - 6) = nanosecond := by omega
    rw [fraction_digits (by omega) (by omega) (by omega), whole]
  next =>
    have whole : nanosecond * 10 ^ (9 - 9) = nanosecond := by omega
    rw [fraction_digits (by omega) (by omega) (by omega), whole]

theorem ofParts?_date (date : Date) : Date.ofParts? date.year date.month date.day = some date := by
  rw [Date.ofParts?, dif_pos ⟨date.year_ge, date.year_le⟩,
    dif_pos ⟨date.month_pos, date.month_le, date.day_pos, date.day_le⟩]

theorem ofParts?_time (time : TimeOfDay) :
    TimeOfDay.ofParts? time.hour time.minute time.second time.nanosecond = some time := by
  rw [TimeOfDay.ofParts?,
    dif_pos ⟨time.hour_lt, time.minute_lt, time.second_le, time.nanosecond_lt⟩]

theorem ofLocal?_utc (date : Date) (time : TimeOfDay) :
    ofLocal? date time 0 = some ⟨date, time⟩ := by
  have hours := time.hour_lt
  have minutes := time.minute_lt
  have early : ¬((time.hour * 60 + time.minute : Int) - 0 < 0) := by omega
  have late : ¬(1440 ≤ (time.hour * 60 + time.minute : Int) - 0) := by omega
  have whole : (((time.hour * 60 + time.minute : Int) - 0) % 1440).toNat =
      time.hour * 60 + time.minute := by omega
  have hour : (time.hour * 60 + time.minute) / 60 = time.hour := by omega
  have minute : (time.hour * 60 + time.minute) % 60 = time.minute := by omega
  simp only [ofLocal?, if_neg early, if_neg late, whole, hour, minute, ofParts?_time]
  rfl

/-- Every point in time is read back from its text. -/
theorem ofText_toString (instant : Instant) : ofText (toString instant) = .ok instant := by
  obtain ⟨date, time⟩ := instant
  have days : date.day ≤ 31 := by
    have most := date.day_le
    unfold daysInMonth at most
    split at most
    · split at most <;> omega
    · split at most <;> omega
  have months := date.month_le
  have hours := time.hour_lt
  have minutes := time.minute_lt
  have seconds := time.second_le
  have dash : isBlank '-' = false := by decide
  have colon : isBlank ':' = false := by decide
  have text : (toString (⟨date, time⟩ : Instant)).toList =
      yearChars date.year ++ '-' :: (padded 2 date.month ++ '-' :: (padded 2 date.day ++
        'T' :: (padded 2 time.hour ++ ':' :: (padded 2 time.minute ++ ':' ::
          (padded 2 time.second ++ (fractionChars time.nanosecond ++ ['Z'])))))) := by
    simp [ToString.toString, toChars]
  have utc : TimeReader.zone ['Z'] = .ok (0, []) := rfl
  rw [ofText, text]
  simp only [ofChars, bind, Except.bind, year_yearChars ⟨date.year_ge, date.year_le⟩,
    separator_cons dash, separator_cons colon,
    field_padded ⟨date.month_pos, date.month_le⟩ (show date.month < 100 by omega),
    field_padded ⟨date.day_pos, days⟩ (show date.day < 100 by omega),
    field_padded (show 0 ≤ time.hour ∧ time.hour ≤ 23 by omega) (show time.hour < 100 by omega),
    field_padded (show 0 ≤ time.minute ∧ time.minute ≤ 59 by omega)
      (show time.minute < 100 by omega),
    field_padded (show 0 ≤ time.second ∧ time.second ≤ 60 by omega)
      (show time.second < 100 by omega),
    fraction_fractionChars time.nanosecond_lt, utc, ofParts?_date, ofParts?_time, ofLocal?_utc]
  rfl

end Instant

end PrivateComputation
