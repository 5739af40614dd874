import PrivateComputation.Json.Value
import PrivateComputation.Number.Shortest
import PrivateComputation.Text.Quoted

/-!
Writing JSON: indented by two blanks a level, compact, and canonical, which is compact with the
members of every object in key order.
-/

namespace PrivateComputation

/-- A character inside a JSON string: the quote, the backslash and the controls are escaped. -/
def escapeJson (c : Char) : List Char :=
  if c = '"' then ['\\', '"']
  else if c = '\\' then ['\\', '\\']
  else if c = '\n' then ['\\', 'n']
  else if c = '\r' then ['\\', 'r']
  else if c = '\t' then ['\\', 't']
  else if c.toNat = 8 then ['\\', 'b']
  else if c.toNat = 12 then ['\\', 'f']
  else if c.toNat < 32 then
    ['\\', 'u', '0', '0', hexDigit (c.toNat / 16), hexDigit (c.toNat % 16)]
  else [c]

def jsonString (text : String) : List Char :=
  '"' :: text.toList.flatMap escapeJson ++ ['"']

def Number.toChars : Number → List Char
  | .integer value => (toString value).toList
  | .float value => value.compact.toList

namespace Json

def newLine (depth : Nat) : List Char := '\n' :: List.replicate (2 * depth) ' '

mutual

def prettyChars (depth : Nat) : Json → List Char
  | .null => "null".toList
  | .bool true => "true".toList
  | .bool false => "false".toList
  | .number value => value.toChars
  | .string value => jsonString value
  | .array [] => ['[', ']']
  | .array (item :: items) =>
      '[' :: (newLine (depth + 1) ++ prettyChars (depth + 1) item ++
        (prettyItems (depth + 1) items ++ (newLine depth ++ [']'])))
  | .object [] => ['{', '}']
  | .object ((name, value) :: members) =>
      '{' :: (newLine (depth + 1) ++ jsonString name ++ [':', ' '] ++
        prettyChars (depth + 1) value ++
        (prettyMembers (depth + 1) members ++ (newLine depth ++ ['}'])))

def prettyItems (depth : Nat) : List Json → List Char
  | [] => []
  | item :: items => ',' :: (newLine depth ++ prettyChars depth item ++ prettyItems depth items)

def prettyMembers (depth : Nat) : List (String × Json) → List Char
  | [] => []
  | (name, value) :: members =>
      ',' :: (newLine depth ++ jsonString name ++ [':', ' '] ++ prettyChars depth value ++
        prettyMembers depth members)

end

def pretty (json : Json) : String := String.ofList (prettyChars 0 json)

mutual

def compactChars : Json → List Char
  | .null => "null".toList
  | .bool true => "true".toList
  | .bool false => "false".toList
  | .number value => value.toChars
  | .string value => jsonString value
  | .array items => '[' :: compactItems items ++ [']']
  | .object members => '{' :: compactMembers members ++ ['}']

def compactItems : List Json → List Char
  | [] => []
  | [item] => compactChars item
  | item :: items => compactChars item ++ ',' :: compactItems items

def compactMembers : List (String × Json) → List Char
  | [] => []
  | [(name, value)] => jsonString name ++ ':' :: compactChars value
  | (name, value) :: members =>
      jsonString name ++ ':' :: compactChars value ++ ',' :: compactMembers members

end

def compact (json : Json) : String := String.ofList (compactChars json)

mutual

def sortMembers : Json → Json
  | .array items => .array (sortItems items)
  | .object members => .object (sortEntries members)
  | json => json

def sortItems : List Json → List Json
  | [] => []
  | item :: items => sortMembers item :: sortItems items

def sortEntries : List (String × Json) → List (String × Json)
  | [] => []
  | (name, value) :: members => insertEntry name (sortMembers value) (sortEntries members)

end

def canonical (json : Json) : String := json.sortMembers.compact

end Json

end PrivateComputation
