import PrivateComputation.Json.Place
import PrivateComputation.Json.Sorted
import PrivateComputation.Number.Shortest
import PrivateComputation.Text.Quoted
import PrivateComputation.Time.Reader

/-!
Decoding typed values from the tree of a JSON text or of a JSON value. Parts are met in order, and
the first problem met is the answer.
-/

namespace PrivateComputation

/-! ## Faults -/

inductive Mismatch where
  | missingField (name : String)
  | duplicateField (name : String)
  | unknownVariant (name : String) (expected : List String)
  | invalidType (found : Found) (wanted : String)
  | invalidValue (found : Found) (wanted : String)
  | invalidLength (length : Nat) (wanted : String)
  | invalidTime (fault : TimeFault)
  deriving DecidableEq

def Found.describe : Found → String
  | .null => "null"
  | .boolean value => "boolean `" ++ toString value ++ "`"
  | .integer value => "integer `" ++ toString value ++ "`"
  | .float value => "floating point `" ++ value.compact ++ "`"
  | .string value => "string " ++ quoted value
  | .sequence => "sequence"
  | .map => "map"

def listVariants : List String → String
  | [] => "there are no variants"
  | [only] => "expected `" ++ only ++ "`"
  | [first, second] => "expected `" ++ first ++ "` or `" ++ second ++ "`"
  | names => "expected one of " ++ ", ".intercalate (names.map (fun name => "`" ++ name ++ "`"))

def Mismatch.message : Mismatch → String
  | .missingField name => "missing field `" ++ name ++ "`"
  | .duplicateField name => "duplicate field `" ++ name ++ "`"
  | .unknownVariant name expected => "unknown variant `" ++ name ++ "`, " ++ listVariants expected
  | .invalidType found wanted => "invalid type: " ++ found.describe ++ ", expected " ++ wanted
  | .invalidValue found wanted => "invalid value: " ++ found.describe ++ ", expected " ++ wanted
  | .invalidLength length wanted =>
      "invalid length " ++ toString length ++ ", expected " ++ wanted
  | .invalidTime fault => fault.message

inductive DecodeFault where
  | text (fault : TextFault)
  | data (cause : Mismatch) (path : List PathStep)
  deriving DecidableEq

def DecodeFault.within (step : PathStep) : DecodeFault → DecodeFault
  | .text fault => .text fault
  | .data cause path => .data cause (step :: path)

inductive JsonFault where
  | text (fault : TextFault)
  | data (cause : Mismatch) (place : Option TextPlace)
  deriving DecidableEq

def JsonFault.message : JsonFault → String
  | .text .malformed => "malformed JSON text"
  | .text .truncated => "unexpected end of JSON text"
  | .data cause place => cause.message ++ (place.map TextPlace.describe).getD ""

/-- The text from where a mismatch shows, for the text from where its path leads: an array or object
of the wrong type shows where it opens, a name given again shows behind it and behind the end of the
object if that follows, all else shows behind the value. -/
def Mismatch.behind (cause : Mismatch) (text : List Char) : List Char :=
  match cause with
  | .invalidType .sequence _ | .invalidType .map _ => text
  | .duplicateField _ =>
      match skipJsonBlanks (behindValue text) with
      | '}' :: rest => rest
      | rest => rest
  | _ => behindValue text

def Mismatch.place (cause : Mismatch) (path : List PathStep) (text : List Char) : TextPlace :=
  .behind (text.take (text.length - (cause.behind (followPath path text)).length))

def DecodeFault.inText (text : List Char) : DecodeFault → JsonFault
  | .text fault => .text fault
  | .data cause path => .data cause (some (cause.place path text))

def DecodeFault.inValue : DecodeFault → JsonFault
  | .text fault => .text fault
  | .data cause _ => .data cause none

/-! ## Decoders -/

structure DecodeContext where
  fromText : Bool
  depth : Nat

/-- Goes into an array or object. A text keeps at most 127 levels. -/
def DecodeContext.enter (context : DecodeContext) : Except DecodeFault DecodeContext :=
  if context.fromText && 127 ≤ context.depth then .error (.text .malformed)
  else .ok { context with depth := context.depth + 1 }

abbrev Decoder (α : Type) := DecodeContext → Tree → Except DecodeFault α

def Tree.unwanted (wanted : String) : Tree → DecodeFault
  | .null => .data (.invalidType .null wanted) []
  | .bool value => .data (.invalidType (.boolean value) wanted) []
  | .number (some value) => .data (.invalidType (.ofNumber value) wanted) []
  | .number none => .text .malformed
  | .string (some value) => .data (.invalidType (.string value) wanted) []
  | .string none => .text .malformed
  | .array _ _ => .data (.invalidType .sequence wanted) []
  | .object _ _ => .data (.invalidType .map wanted) []
  | .absent fault => .text fault
  | .cut kept _ _ => .text kept

def Stop.finish : Stop → Except DecodeFault Unit
  | .closed => .ok ()
  | .broken fault => .error (.text fault)

mutual

def Tree.skip : Tree → Except DecodeFault Unit
  | .array items stop => do
      skipItems items
      stop.finish
  | .object members stop => do
      skipMembers members
      stop.finish
  | .absent fault => .error (.text fault)
  | .cut _ skipped _ => .error (.text skipped)
  | _ => .ok ()

def skipItems : List Tree → Except DecodeFault Unit
  | [] => .ok ()
  | item :: items => do
      item.skip
      skipItems items

def skipMembers : List (MemberName × Tree) → Except DecodeFault Unit
  | [] => .ok ()
  | (.unreadable _ skipped, _) :: _ => .error (.text skipped)
  | (_, value) :: members => do
      value.skip
      skipMembers members

end

namespace Decoder

variable {α β : Type}

def map (f : α → β) (decode : Decoder α) : Decoder β := fun context tree =>
  (decode context tree).map f

def string : Decoder String
  | _, .string (some value) => .ok value
  | _, tree => .error (tree.unwanted "a string")

def bool : Decoder Bool
  | _, .bool value => .ok value
  | _, tree => .error (tree.unwanted "a boolean")

def integer (low high : Int) (wanted : String) : Decoder Int
  | _, .number (some (.integer value)) =>
      if low ≤ value && value < high then .ok value
      else .error (.data (.invalidValue (.integer value) wanted) [])
  | _, tree => .error (tree.unwanted wanted)

def uint16 : Decoder UInt16 :=
  (integer 0 UInt16.size "u16").map (fun value => UInt16.ofNat value.toNat)

def uint32 : Decoder UInt32 :=
  (integer 0 UInt32.size "u32").map (fun value => UInt32.ofNat value.toNat)

def uint64 : Decoder UInt64 :=
  (integer 0 UInt64.size "u64").map (fun value => UInt64.ofNat value.toNat)

def int32 : Decoder Int32 := (integer (-2147483648) 2147483648 "i32").map Int32.ofInt

def instant : Decoder Instant
  | _, .string (some value) =>
      match Instant.ofText value with
      | .ok instant => .ok instant
      | .error fault => .error (.data (.invalidTime fault) [])
  | _, tree => .error (tree.unwanted "an RFC 3339 formatted date and time string")

def optional (decode : Decoder α) : Decoder (Option α)
  | _, .null => .ok none
  | context, tree => (decode context tree).map some

def part (step : PathStep) (decode : Decoder α) : Decoder α := fun context tree =>
  (decode context tree).mapError (DecodeFault.within step)

def items (decode : Decoder α) (context : DecodeContext) :
    Nat → List Tree → Except DecodeFault (List α)
  | _, [] => .ok []
  | index, tree :: trees => do
      let item ← part (.item index) decode context tree
      let rest ← items decode context (index + 1) trees
      .ok (item :: rest)

def list (decode : Decoder α) : Decoder (List α)
  | context, .array trees stop => do
      let context ← context.enter
      let decoded ← items decode context 0 trees
      stop.finish
      .ok decoded
  | _, tree => .error (tree.unwanted "a sequence")

/-- Decodes members in order into a map, with the index of the first; the last of several members of
one name stays. -/
def entries (decode : Decoder α) (context : DecodeContext) :
    Nat → List (MemberName × Tree) → SortedMap α → Except DecodeFault (SortedMap α)
  | _, [], map => .ok map
  | index, (.text name, tree) :: members, map => do
      let value ← part (.member index) decode context tree
      entries decode context (index + 1) members (map.insert name value)
  | _, (.halved, _) :: _, _ => .error (.text .malformed)
  | _, (.unreadable kept _, _) :: _, _ => .error (.text kept)

def sortedMap (decode : Decoder α) : Decoder (SortedMap α)
  | context, .object members stop => do
      let context ← context.enter
      let decoded ← entries decode context 0 members ∅
      stop.finish
      .ok decoded
  | _, tree => .error (tree.unwanted "a map")

mutual

def json : DecodeContext → Tree → Except DecodeFault SortedJson
  | _, .null => .ok .null
  | _, .bool value => .ok (.bool value)
  | _, .number (some value) => .ok (.number value)
  | _, .string (some value) => .ok (.string value)
  | context, .array trees stop => do
      let context ← context.enter
      let decoded ← jsonItems context trees
      stop.finish
      .ok (.array decoded)
  | context, .object members stop => do
      let context ← context.enter
      let decoded ← jsonMembers context members ∅
      stop.finish
      .ok (.object decoded)
  | _, tree => .error (tree.unwanted "any valid JSON value")

def jsonItems (context : DecodeContext) : List Tree → Except DecodeFault (List SortedJson)
  | [] => .ok []
  | tree :: trees => do
      let item ← json context tree
      let rest ← jsonItems context trees
      .ok (item :: rest)

def jsonMembers (context : DecodeContext) :
    List (MemberName × Tree) → SortedMap SortedJson → Except DecodeFault (SortedMap SortedJson)
  | [], decoded => .ok decoded
  | (.text name, tree) :: members, decoded => do
      let value ← json context tree
      jsonMembers context members (decoded.insert name value)
  | (.halved, _) :: _, _ => .error (.text .malformed)
  | (.unreadable kept _, _) :: _, _ => .error (.text kept)

end

/-! ## Variants -/

structure Variants (α : Type) where
  named : List (String × α)
  other : Option α

def Variants.select (variants : Variants α) (name : String) : Except DecodeFault α :=
  match variants.named.lookup name, variants.other with
  | some value, _ => .ok value
  | none, some value => .ok value
  | none, none => .error (.data (.unknownVariant name (variants.named.map Prod.fst)) [])

def unit : Tree → Except DecodeFault Unit
  | .null => .ok ()
  | tree => .error (tree.unwanted "unit")

/-- A variant in a text, written as a string or as an object with a null member. -/
def variantText (variants : Variants α) : Decoder α
  | _, .string (some name) => variants.select name
  | context, .object members stop => do
      let _ ← context.enter
      match members, stop with
      | [], .broken fault => .error (.text fault)
      | [], .closed => .error (.text .malformed)
      | (.text name, tree) :: others, stop => do
          let value ← (variants.select name).mapError (DecodeFault.within (.name 0))
          (unit tree).mapError (DecodeFault.within (.member 0))
          if others.isEmpty then
            stop.finish
            .ok value
          else .error (.text .malformed)
      | (.halved, _) :: _, _ => .error (.text .malformed)
      | (.unreadable kept _, _) :: _, _ => .error (.text kept)
  | _, .absent fault => .error (.text fault)
  | _, .cut _ _ named => .error (.text named)
  | _, _ => .error (.text .malformed)

def variantValue (variants : Variants α) : Decoder α
  | _, .string (some name) => variants.select name
  | _, .object [(.text name, tree)] _ => do
      let value ← variants.select name
      unit tree
      .ok value
  | _, .object _ _ => .error (.data (.invalidValue .map "map with a single key") [])
  | _, tree => .error (tree.unwanted "string or map")

def variant (variants : Variants α) : Decoder α := fun context tree =>
  if context.fromText then variantText variants context tree
  else variantValue variants context tree

end Decoder

/-! ## Records -/

structure Field where
  {Value : Type}
  name : String
  decode : Decoder Value
  /-- The value of a field that is not given; `none` when it has to be given. -/
  absent : Option Value

namespace Field

variable {α : Type}

def required (name : String) (decode : Decoder α) : Field := ⟨name, decode, none⟩

def withDefault (name : String) (decode : Decoder α) (value : α) : Field :=
  ⟨name, decode, some value⟩

def optional (name : String) (decode : Decoder α) : Field := ⟨name, decode.optional, some none⟩

end Field

def Slots : List Field → Type
  | [] => Unit
  | field :: fields => Option field.Value × Slots fields

def FieldValues : List Field → Type
  | [] => Unit
  | field :: fields => field.Value × FieldValues fields

def Slots.empty : (fields : List Field) → Slots fields
  | [] => ()
  | _ :: fields => (none, empty fields)

/-- Takes in the member at an index: an unknown one is passed over, a known one must be new. -/
def Slots.fill (context : DecodeContext) (index : Nat) (name : String) (tree : Tree) :
    (fields : List Field) → Slots fields → Except DecodeFault (Slots fields)
  | [], () => do
      tree.skip
      .ok ()
  | field :: fields, (slot, slots) =>
      if field.name = name then
        match slot with
        | some _ => .error (.data (.duplicateField name) [.name index])
        | none => do
            let value ← field.decode.part (.member index) context tree
            .ok (some value, slots)
      else do
        let slots ← fill context index name tree fields slots
        .ok (slot, slots)

def Slots.fillAll (context : DecodeContext) (fields : List Field) :
    Nat → List (MemberName × Tree) → Slots fields → Except DecodeFault (Slots fields)
  | _, [], slots => .ok slots
  | index, (.text name, tree) :: members, slots => do
      let slots ← fill context index name tree fields slots
      fillAll context fields (index + 1) members slots
  | _, (.halved, _) :: _, _ => .error (.text .malformed)
  | _, (.unreadable kept _, _) :: _, _ => .error (.text kept)

def Slots.finish : (fields : List Field) → Slots fields → Except DecodeFault (FieldValues fields)
  | [], () => .ok ()
  | field :: fields, (slot, slots) =>
      match slot, field.absent with
      | some value, _ => do
          let values ← finish fields slots
          .ok (value, values)
      | none, some value => do
          let values ← finish fields slots
          .ok (value, values)
      | none, none => .error (.data (.missingField field.name) [])

namespace Decoder

/-- Reads fields from the items of an array, in the order of their declaration. The fields in front
are counted for the message. -/
def positional (context : DecodeContext) (wanted : String) :
    (fields : List Field) → Nat → List Tree → Stop → Except DecodeFault (FieldValues fields)
  | [], taken, trees, stop =>
      if trees.isEmpty then
        match stop.finish with
        | .ok () => .ok ()
        | .error fault => .error fault
      else if context.fromText then .error (.text .malformed)
      else .error (.data (.invalidLength (taken + trees.length) "fewer elements in array") [])
  | field :: fields, taken, [], stop => do
      stop.finish
      match field.absent with
      | some value => do
          let values ← positional context wanted fields (taken + 1) [] stop
          .ok (value, values)
      | none => .error (.data (.invalidLength taken wanted) [])
  | field :: fields, taken, tree :: trees, stop => do
      let value ← field.decode.part (.item taken) context tree
      let values ← positional context wanted fields (taken + 1) trees stop
      .ok (value, values)

/-- A record, given as an object of its fields or as an array of their values. -/
def record {α : Type} (name : String) (fields : List Field) (build : FieldValues fields → α) :
    Decoder α
  | context, .object members stop => do
      let context ← context.enter
      let slots ← Slots.fillAll context fields 0 members (Slots.empty fields)
      stop.finish
      let values ← slots.finish
      .ok (build values)
  | context, .array trees stop => do
      let context ← context.enter
      let count := fields.length
      let wanted :=
        "struct " ++ name ++ " with " ++ toString count ++
          (if count = 1 then " element" else " elements")
      let values ← positional context wanted fields 0 trees stop
      .ok (build values)
  | _, tree => .error (tree.unwanted ("struct " ++ name))

/-! ## Whole documents -/

variable {α : Type}

def ofText (decode : Decoder α) (text : String) : Except JsonFault α := do
  let document := Document.ofText text
  let value ← (decode ⟨true, 0⟩ document.tree).mapError (DecodeFault.inText text.toList)
  if document.trailing then .error (.text .malformed) else .ok value

def ofJson (decode : Decoder α) (json : Json) : Except JsonFault α :=
  (decode ⟨false, 0⟩ (.ofJson json)).mapError DecodeFault.inValue

end Decoder

def Json.ofText (text : String) : Except JsonFault Json :=
  (Decoder.ofText Decoder.json text).map SortedJson.json

end PrivateComputation
