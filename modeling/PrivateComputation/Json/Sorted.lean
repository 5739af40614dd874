import PrivateComputation.Json.Value

/-!
JSON values whose objects are sorted by key, as every value is that has been read.
-/

namespace PrivateComputation

/-- The members of every object are in ascending order of their names. -/
inductive Json.Sorted : Json → Prop
  | null : Sorted .null
  | bool (value : Bool) : Sorted (.bool value)
  | number (value : Number) : Sorted (.number value)
  | string (value : String) : Sorted (.string value)
  | array {items : List Json} (each : ∀ item ∈ items, Sorted item) : Sorted (.array items)
  | object {members : List (String × Json)} (ascending : Ascending members)
      (each : ∀ member ∈ members, Sorted member.2) : Sorted (.object members)

structure SortedJson where
  json : Json
  sorted : json.Sorted

namespace SortedJson

instance : BEq SortedJson := ⟨fun left right => left.json == right.json⟩

def null : SortedJson := ⟨.null, .null⟩

def bool (value : Bool) : SortedJson := ⟨.bool value, .bool value⟩

def number (value : Number) : SortedJson := ⟨.number value, .number value⟩

def ofNat (value : Nat) : SortedJson := .number (.integer value)

def string (value : String) : SortedJson := ⟨.string value, .string value⟩

def array (items : List SortedJson) : SortedJson where
  json := .array (items.map json)
  sorted := by
    apply Json.Sorted.array
    intro item listed
    obtain ⟨document, -, rfl⟩ := List.mem_map.mp listed
    exact document.sorted

def object (members : SortedMap SortedJson) : SortedJson where
  json := .object (members.entries.map (fun member => (member.1, member.2.json)))
  sorted := by
    have ascending : Ascending (members.entries.map (fun member => (member.1, member.2.json))) :=
      List.pairwise_map.mpr members.ascending
    apply Json.Sorted.object ascending
    intro member listed
    obtain ⟨⟨name, document⟩, -, rfl⟩ := List.mem_map.mp listed
    exact document.sorted

def strings (texts : List String) : SortedJson := .array (texts.map .string)

end SortedJson

end PrivateComputation
