import PrivateComputation.Json.Value

/-!
A JSON text as a tree that also records where and how the text breaks off. A reader of the tree
meets the parts in text order, so the first problem it meets is the first problem of the text.
-/

namespace PrivateComputation

inductive TextFault where
  | malformed
  | truncated
  deriving DecidableEq, Inhabited

inductive Found where
  | null
  | boolean (value : Bool)
  | integer (value : Int)
  | float (value : Binary64)
  | string (value : String)
  | sequence
  | map
  deriving DecidableEq, Inhabited

def Found.ofNumber : Number → Found
  | .integer value => .integer value
  | .float value => .float value

inductive Stop where
  | closed
  | broken (fault : TextFault)

inductive MemberName where
  | text (name : String)
  /-- A name with half of a surrogate pair. -/
  | halved
  /-- No name, as a reader that keeps names and one that skips them report it. -/
  | unreadable (kept skipped : TextFault)

inductive Tree where
  | null
  | bool (value : Bool)
  | number (value : Option Number)
  /-- A string; `none` when it has half of a surrogate pair. -/
  | string (value : Option String)
  | array (items : List Tree) (stop : Stop)
  | object (members : List (MemberName × Tree)) (stop : Stop)
  | absent (fault : TextFault)
  /-- A value starts here and breaks off, as readers report it that keep the value, skip it, or
  want a name of a variant. -/
  | cut (kept skipped named : TextFault)
  deriving Inhabited

namespace Tree

mutual

def ofJson : Json → Tree
  | .null => .null
  | .bool value => .bool value
  | .number value => .number (some value)
  | .string value => .string (some value)
  | .array items => .array (ofItems items) .closed
  | .object members => .object (ofMembers members) .closed

def ofItems : List Json → List Tree
  | [] => []
  | item :: items => ofJson item :: ofItems items

def ofMembers : List (String × Json) → List (MemberName × Tree)
  | [] => []
  | (name, value) :: members => (.text name, ofJson value) :: ofMembers members

end

end Tree

end PrivateComputation
