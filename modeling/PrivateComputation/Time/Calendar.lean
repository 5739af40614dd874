/-!
Dates of the proleptic Gregorian calendar.
-/

namespace PrivateComputation

def isLeapYear (year : Int) : Bool := year % 4 == 0 && (year % 100 != 0 || year % 400 == 0)

def daysInMonth (year : Int) (month : Nat) : Nat :=
  if month = 2 then (if isLeapYear year then 29 else 28)
  else if month = 4 || month = 6 || month = 9 || month = 11 then 30
  else 31

def Date.firstYear : Int := -262143

def Date.lastYear : Int := 262142

structure Date where
  year : Int
  month : Nat
  day : Nat
  year_ge : Date.firstYear ≤ year
  year_le : year ≤ Date.lastYear
  month_pos : 1 ≤ month
  month_le : month ≤ 12
  day_pos : 1 ≤ day
  day_le : day ≤ daysInMonth year month
  deriving DecidableEq

namespace Date

def ofParts? (year : Int) (month day : Nat) : Option Date :=
  if known : firstYear ≤ year ∧ year ≤ lastYear then
    if valid : 1 ≤ month ∧ month ≤ 12 ∧ 1 ≤ day ∧ day ≤ daysInMonth year month then
      some ⟨year, month, day, known.1, known.2, valid.1, valid.2.1, valid.2.2.1, valid.2.2.2⟩
    else none
  else none

def next? (date : Date) : Option Date :=
  if date.day < daysInMonth date.year date.month then ofParts? date.year date.month (date.day + 1)
  else if date.month < 12 then ofParts? date.year (date.month + 1) 1
  else ofParts? (date.year + 1) 1 1

def previous? (date : Date) : Option Date :=
  if 1 < date.day then ofParts? date.year date.month (date.day - 1)
  else if 1 < date.month then
    ofParts? date.year (date.month - 1) (daysInMonth date.year (date.month - 1))
  else ofParts? (date.year - 1) 12 31

/-- The date some days after the first of 1970. Years are counted from March on, so that the leap
day is the last of its year, in eras of 400 years with 146097 days. -/
def ofDayNumber? (days : Nat) : Option Date :=
  let shifted := days + 719468
  let era := shifted / 146097
  let dayOfEra := shifted % 146097
  let yearOfEra := (dayOfEra - dayOfEra / 1460 + dayOfEra / 36524 - dayOfEra / 146096) / 365
  let dayOfYear := dayOfEra - (365 * yearOfEra + yearOfEra / 4 - yearOfEra / 100)
  let monthFromMarch := (5 * dayOfYear + 2) / 153
  let day := dayOfYear - (153 * monthFromMarch + 2) / 5 + 1
  let month := if monthFromMarch < 10 then monthFromMarch + 3 else monthFromMarch - 9
  let year := yearOfEra + era * 400 + (if month ≤ 2 then 1 else 0)
  ofParts? year month day

end Date

end PrivateComputation
