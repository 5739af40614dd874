import PrivateComputation.Json.Value
import PrivateComputation.Time.Instant

/-!
TOML values, and the JSON value that each of them stands for.
-/

namespace PrivateComputation

inductive TomlFloat where
  | finite (value : Binary64)
  | infinite (negative : Bool)
  | nan
  deriving DecidableEq

structure TomlDate where
  year : Nat
  month : Nat
  day : Nat
  deriving DecidableEq

structure TomlTime where
  hour : Nat
  minute : Nat
  second : Nat
  nanosecond : Nat
  deriving DecidableEq

inductive TomlOffset where
  | zulu
  | minutes (ahead : Int)
  deriving DecidableEq

inductive TomlDateTime where
  | date (date : TomlDate)
  | time (time : TomlTime)
  | full (date : TomlDate) (time : TomlTime) (offset : Option TomlOffset)
  deriving DecidableEq

/-- A TOML value; the entries of a table are in ascending order of their keys. -/
inductive Toml where
  | string (value : String)
  | integer (value : Int)
  | float (value : TomlFloat)
  | boolean (value : Bool)
  | dateTime (value : TomlDateTime)
  | array (items : List Toml)
  | table (entries : List (String × Toml))
  deriving Inhabited

namespace TomlDateTime

open Instant (padded)

def dateChars (day : TomlDate) : List Char :=
  padded 4 day.year ++ '-' :: padded 2 day.month ++ '-' :: padded 2 day.day

def fractionChars (nanosecond : Nat) : List Char :=
  if nanosecond = 0 then []
  else '.' :: ((padded 9 nanosecond).reverse.dropWhile (· == '0')).reverse

def timeChars (moment : TomlTime) : List Char :=
  padded 2 moment.hour ++ ':' :: padded 2 moment.minute ++ ':' :: padded 2 moment.second ++
    fractionChars moment.nanosecond

def offsetChars : TomlOffset → List Char
  | .zulu => ['Z']
  | .minutes ahead =>
      (if ahead < 0 then '-' else '+') :: padded 2 (ahead.natAbs / 60) ++
        ':' :: padded 2 (ahead.natAbs % 60)

def toChars : TomlDateTime → List Char
  | .date day => dateChars day
  | .time moment => timeChars moment
  | .full day moment offset =>
      dateChars day ++ 'T' :: timeChars moment ++ (offset.map offsetChars).getD []

end TomlDateTime

namespace Toml

mutual

/-- The JSON value of a TOML value. A float that is not finite has none and becomes null; a date
becomes its text. -/
def toJson : Toml → Json
  | .string value => .string value
  | .integer value => .ofInt value
  | .float (.finite value) => .number (.float value)
  | .float (.infinite _) => .null
  | .float .nan => .null
  | .boolean value => .bool value
  | .dateTime value => .string (String.ofList value.toChars)
  | .array items => .array (itemsToJson items)
  | .table entries => .object (entriesToJson entries)

def itemsToJson : List Toml → List Json
  | [] => []
  | item :: items => item.toJson :: itemsToJson items

def entriesToJson : List (String × Toml) → List (String × Json)
  | [] => []
  | (key, value) :: entries => (key, value.toJson) :: entriesToJson entries

end

end Toml

end PrivateComputation
