import PrivateComputation.Json.Value

/-!
Merging layers of configuration: objects merge member by member, anything else is replaced, and null
leaves what is there.
-/

namespace PrivateComputation.Json

mutual

def merge (base : Json) : Json → Json
  | .null => base
  | .object overlay =>
      match base with
      | .object members => .object (mergeMembers members overlay)
      | _ => .object overlay
  | overlay => overlay

/-- Members under those of an overlay; a null member of the overlay is not taken in. -/
def mergeMembers (base : List (String × Json)) :
    List (String × Json) → List (String × Json)
  | [] => base
  | (name, value) :: overlay =>
      let merged :=
        match base.lookup name with
        | some bound => insertEntry name (merge bound value) base
        | none => if value.isNull then base else insertEntry name value base
      mergeMembers merged overlay

end

def mergeLayers (layers : List Json) : Json := layers.foldl merge (.object [])

def at? (json : Json) (path : List String) : Option Json :=
  path.foldlM (fun json name => json.get? name) json

end PrivateComputation.Json
