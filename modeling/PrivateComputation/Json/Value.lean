import PrivateComputation.Number.Binary64
import PrivateComputation.SortedMap

/-!
JSON values. Members of an object read from a text are sorted by key; an object that is about to be
written lists its members in the order in which they are to appear.
-/

namespace PrivateComputation

inductive Number where
  | integer (value : Int)
  | float (value : Binary64)
  deriving DecidableEq, Inhabited

def Number.sameValue : Number → Number → Bool
  | .integer left, .integer right => left == right
  | .float left, .float right => left.sameValue right
  | _, _ => false

inductive Json where
  | null
  | bool (value : Bool)
  | number (value : Number)
  | string (value : String)
  | array (items : List Json)
  | object (members : List (String × Json))
  deriving Inhabited

namespace Json

def ofNat (value : Nat) : Json := .number (.integer value)

def ofInt (value : Int) : Json := .number (.integer value)

def strings (texts : List String) : Json := .array (texts.map .string)

def optionalMember (name : String) (value : Option Json) : List (String × Json) :=
  match value with
  | some json => [(name, json)]
  | none => []

def isNull : Json → Bool
  | .null => true
  | _ => false

def get? (name : String) : Json → Option Json
  | .object members => members.lookup name
  | _ => none

def toNat? : Json → Option Nat
  | .number (.integer (.ofNat value)) => some value
  | _ => none

def toString? : Json → Option String
  | .string value => some value
  | _ => none

mutual

/-- Equality of JSON values: arrays item by item, objects member by member in the order of their
keys, numbers by value. -/
def sameValue : Json → Json → Bool
  | .null, .null => true
  | .bool left, .bool right => left == right
  | .number left, .number right => left.sameValue right
  | .string left, .string right => left == right
  | .array left, .array right => sameItems left right
  | .object left, .object right => sameMembers left right
  | _, _ => false

def sameItems : List Json → List Json → Bool
  | [], [] => true
  | left :: lefts, right :: rights => sameValue left right && sameItems lefts rights
  | _, _ => false

def sameMembers : List (String × Json) → List (String × Json) → Bool
  | [], [] => true
  | (leftName, left) :: lefts, (rightName, right) :: rights =>
      leftName == rightName && sameValue left right && sameMembers lefts rights
  | _, _ => false

end

instance : BEq Json := ⟨sameValue⟩

end Json

end PrivateComputation
