import PrivateComputation.Text.Whitespace
import PrivateComputation.Time.Instant

/-!
Reading a point in time. The form is that of RFC 3339, read loosely: fields may be short and stand
apart, and the offset may be written in several ways.
-/

namespace PrivateComputation

inductive TimeFault where
  | tooShort
  | invalid
  | outOfRange
  | tooLong
  | impossible
  deriving DecidableEq, Inhabited

def TimeFault.message : TimeFault → String
  | .tooShort => "premature end of input"
  | .invalid => "input contains invalid characters"
  | .outOfRange => "input is out of range"
  | .tooLong => "trailing input"
  | .impossible => "no possible date and time matching input"

namespace TimeReader

def isDigit (c : Char) : Bool := '0' ≤ c && c ≤ '9'

def value (digits : List Char) : Nat :=
  digits.foldl (fun number digit => number * 10 + (digit.toNat - 48)) 0

def number (width : Nat) (text : List Char) : Except TimeFault (Nat × List Char) :=
  match (text.take width).takeWhile isDigit with
  | [] => if text.isEmpty then .error .tooShort else .error .invalid
  | digits => .ok (value digits, text.drop digits.length)

def longNumber (text : List Char) : Except TimeFault (Nat × List Char) := do
  let (number, rest) ← number text.length text
  if 9223372036854775808 ≤ number then .error .outOfRange else .ok (number, rest)

def field (low high : Nat) (text : List Char) : Except TimeFault (Nat × List Char) := do
  let (number, rest) ← number 2 (skipBlanks text)
  if low ≤ number && number ≤ high then .ok (number, rest) else .error .outOfRange

/-- A year: four digits at most, or any number of digits behind a sign. -/
def year (text : List Char) : Except TimeFault (Int × List Char) := do
  let (year, rest) ←
    match skipBlanks text with
    | '-' :: rest => do
        let (number, rest) ← longNumber rest
        pure (-(number : Int), rest)
    | '+' :: rest => do
        let (number, rest) ← longNumber rest
        pure ((number : Int), rest)
    | text => do
        let (number, rest) ← number 4 text
        pure ((number : Int), rest)
  if -2147483648 ≤ year && year ≤ 2147483647 then .ok (year, rest) else .error .outOfRange

def separator (mark : Char) (text : List Char) : Except TimeFault (List Char) :=
  match skipBlanks text with
  | [] => .error .tooShort
  | c :: rest => if c = mark then .ok rest else .error .invalid

/-- A fraction of a second; digits beyond the ninth are dropped. -/
def fraction : List Char → Except TimeFault (Nat × List Char)
  | '.' :: text => do
      let (number, rest) ← number 9 text
      let digits := text.length - rest.length
      .ok (number * Nat.pow 10 (9 - digits), rest.dropWhile isDigit)
  | text => .ok (0, text)

def offset (text : List Char) : Except TimeFault (Int × List Char) :=
  match text with
  | [] => .error .tooShort
  | sign :: rest =>
      if sign = 'Z' || sign = 'z' then .ok (0, rest)
      else if sign = '+' || sign = '-' || sign = '\u2212' then
        let negative := sign ≠ '+'
        let signed (minutes : Nat) : Int := if negative then -(minutes : Int) else minutes
        match rest with
        | h1 :: h2 :: rest =>
            if isDigit h1 && isDigit h2 then
              let hours := value [h1, h2]
              match rest.dropWhile (fun c => c == ':' || isBlank c) with
              | [] => .error .tooShort
              | [c] => if c.utf8Size = 1 then .error .tooShort else .error .invalid
              | m1 :: m2 :: rest =>
                  if isDigit m1 && isDigit m2 then
                    if '5' < m1 then .error .outOfRange
                    else .ok (signed (hours * 60 + value [m1, m2]), rest)
                  else .error .invalid
            else .error .invalid
        | [c] => if c.utf8Size = 1 then .error .tooShort else .error .invalid
        | [] => .error .tooShort
      else .error .invalid

def zone (text : List Char) : Except TimeFault (Int × List Char) :=
  match skipBlanks text with
  | u :: t :: c :: rest =>
      if u.toUpper = 'U' && t.toUpper = 'T' && c.toUpper = 'C' then .ok (0, rest)
      else offset (u :: t :: c :: rest)
  | text => offset text

end TimeReader

open TimeReader in
def Instant.ofChars (text : List Char) : Except TimeFault Instant := do
  let (year, text) ← year text
  let text ← separator '-' text
  let (month, text) ← field 1 12 text
  let text ← separator '-' text
  let (day, text) ← field 1 31 text
  let text ←
    match text with
    | [] => .error .tooShort
    | c :: rest => if c = 'T' || c = 't' || c = ' ' then .ok rest else .error .invalid
  let (hour, text) ← field 0 23 text
  let text ← separator ':' text
  let (minute, text) ← field 0 59 text
  let text ← separator ':' text
  let (second, text) ← field 0 60 text
  let (nanosecond, text) ← fraction text
  let (offset, text) ← zone text
  if !(skipBlanks text).isEmpty then .error .tooLong
  else
    match Date.ofParts? year month day, TimeOfDay.ofParts? hour minute second nanosecond with
    | some date, some time =>
        if offset.natAbs < 1440 then
          match ofLocal? date time offset with
          | some instant => .ok instant
          | none => .error .impossible
        else .error .outOfRange
    | _, _ => .error .outOfRange

def Instant.ofText (text : String) : Except TimeFault Instant := ofChars text.toList

end PrivateComputation
