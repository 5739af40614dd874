import PrivateComputation.Time.Calendar

/-!
Points in time, in UTC, to the nanosecond. A leap second is second 60 of its minute.
-/

namespace PrivateComputation

/-- A time of day; only second 60 is a leap second. -/
structure TimeOfDay where
  hour : Nat
  minute : Nat
  second : Nat
  nanosecond : Nat
  hour_lt : hour < 24
  minute_lt : minute < 60
  second_le : second ≤ 60
  nanosecond_lt : nanosecond < 1000000000
  deriving DecidableEq

structure Instant where
  date : Date
  time : TimeOfDay
  deriving DecidableEq

namespace TimeOfDay

def ofParts? (hour minute second nanosecond : Nat) : Option TimeOfDay :=
  if valid : hour < 24 ∧ minute < 60 ∧ second ≤ 60 ∧ nanosecond < 1000000000 then
    some ⟨hour, minute, second, nanosecond, valid.1, valid.2.1, valid.2.2.1, valid.2.2.2⟩
  else none

def midnight : TimeOfDay := ⟨0, 0, 0, 0, by decide, by decide, by decide, by decide⟩

end TimeOfDay

namespace Instant

def epoch : Instant :=
  ⟨⟨1970, 1, 1, by decide, by decide, by decide, by decide, by decide, by decide⟩, .midnight⟩

instance : Inhabited Instant := ⟨epoch⟩

def ofLocal? (date : Date) (time : TimeOfDay) (aheadMinutes : Int) : Option Instant := do
  let shifted := (time.hour * 60 + time.minute : Int) - aheadMinutes
  let date ← if shifted < 0 then date.previous?
    else if 1440 ≤ shifted then date.next?
    else some date
  let minutes := (shifted % 1440).toNat
  let time ← TimeOfDay.ofParts? (minutes / 60) (minutes % 60) time.second time.nanosecond
  some ⟨date, time⟩

def ofNanoseconds? (nanoseconds : Nat) : Option Instant := do
  let seconds := nanoseconds / 1000000000
  let date ← Date.ofDayNumber? (seconds / 86400)
  let time ← TimeOfDay.ofParts? (seconds / 3600 % 24) (seconds / 60 % 60) (seconds % 60)
    (nanoseconds % 1000000000)
  some ⟨date, time⟩

/-- A nanosecond later; the last representable instant stays where it is. -/
def next (instant : Instant) : Instant :=
  let time := instant.time
  let sameDay (hour minute second nanosecond : Nat) : Option Instant :=
    (TimeOfDay.ofParts? hour minute second nanosecond).map (⟨instant.date, ·⟩)
  let later : Option Instant :=
    if time.nanosecond + 1 < 1000000000 then
      sameDay time.hour time.minute time.second (time.nanosecond + 1)
    else if time.second + 1 < 60 then sameDay time.hour time.minute (time.second + 1) 0
    else if time.minute + 1 < 60 then sameDay time.hour (time.minute + 1) 0 0
    else if time.hour + 1 < 24 then sameDay (time.hour + 1) 0 0 0
    else instant.date.next?.map (⟨·, .midnight⟩)
  later.getD instant

def padded (width number : Nat) : List Char :=
  let digits := (toString number).toList
  List.replicate (width - digits.length) '0' ++ digits

/-- Years before 0 and after 9999 carry a sign. -/
def yearChars (year : Int) : List Char :=
  if 0 ≤ year ∧ year ≤ 9999 then padded 4 year.toNat
  else (if year < 0 then '-' else '+') :: padded 4 year.natAbs

/-- A fraction of a second to three, six or nine digits, as many as it needs. -/
def fractionChars (nanosecond : Nat) : List Char :=
  if nanosecond = 0 then []
  else if nanosecond % 1000000 = 0 then '.' :: padded 3 (nanosecond / 1000000)
  else if nanosecond % 1000 = 0 then '.' :: padded 6 (nanosecond / 1000)
  else '.' :: padded 9 nanosecond

def toChars (instant : Instant) : List Char :=
  yearChars instant.date.year ++ '-' :: padded 2 instant.date.month ++
    '-' :: padded 2 instant.date.day ++ 'T' :: padded 2 instant.time.hour ++
    ':' :: padded 2 instant.time.minute ++ ':' :: padded 2 instant.time.second ++
    fractionChars instant.time.nanosecond ++ ['Z']

instance : ToString Instant := ⟨fun instant => String.ofList instant.toChars⟩

end Instant

end PrivateComputation
