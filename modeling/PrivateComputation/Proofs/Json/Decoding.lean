import PrivateComputation.Json.Decoder
import PrivateComputation.Proofs.Json.Reading

/-!
Decoders that give back what was written.
-/

namespace PrivateComputation

variable {α β : Type}

/-- A decoder gives back every value from its JSON form, as deep in a text as leaves room for some
more levels. -/
def Decoder.Inverts (decode : Decoder α) (write : α → Json) (levels : Nat) : Prop :=
  ∀ (context : DecodeContext) (value : α), context.depth + levels ≤ 127 →
    decode context (.ofJson (write value)) = .ok value

theorem DecodeContext.enter_eq {context : DecodeContext} (room : context.depth < 127) :
    context.enter = .ok { context with depth := context.depth + 1 } := by
  have open_ : ¬(context.fromText && 127 ≤ context.depth) = true := by
    simp only [Bool.and_eq_true, decide_eq_true_eq, not_and]
    intro _
    omega
  rw [enter, if_neg open_]

namespace Decoder

theorem part_ok {decode : Decoder α} {context : DecodeContext} {tree : Tree} {value : α}
    (decoded : decode context tree = .ok value) (step : PathStep) :
    part step decode context tree = .ok value := by
  rw [part, decoded]
  rfl

/-! ## Scalars -/

theorem inverts_string : string.Inverts .string 0 := by
  intro context value room
  rfl

theorem inverts_bool : bool.Inverts .bool 0 := by
  intro context value room
  rfl

theorem integer_ok {low high value : Int} (bounds : low ≤ value ∧ value < high) (wanted : String)
    (context : DecodeContext) :
    integer low high wanted context (.ofJson (.ofInt value)) = .ok value := by
  change (if low ≤ value && value < high then Except.ok value else _) = _
  rw [if_pos (by simpa using bounds)]

theorem inverts_uint32 : uint32.Inverts (fun value => .ofNat value.toNat) 0 := by
  intro context value room
  have bound := value.toNat_lt
  have size : (UInt32.size : Int) = 4294967296 := rfl
  have decoded := @integer_ok 0 UInt32.size value.toNat (by omega) "u32" context
  have natural : Json.ofNat value.toNat = .ofInt value.toNat := rfl
  dsimp only
  rw [uint32, map, natural, decoded]
  simp [Except.map]

theorem inverts_int32 : int32.Inverts (fun value => .ofInt value.toInt) 0 := by
  intro context value room
  have low := value.le_toInt
  have high := value.toInt_lt
  have decoded := @integer_ok (-2147483648) 2147483648 value.toInt (by omega) "i32" context
  rw [int32, map, decoded]
  simp [Except.map]

theorem inverts_variant {variants : Variants α} {name : α → String}
    (named : ∀ value, variants.named.lookup (name value) = some value) :
    (variant variants).Inverts (fun value => .string (name value)) 0 := by
  intro context value room
  have selected : variants.select (name value) = .ok value := by
    rw [Variants.select, named value]
  unfold variant
  split
  · exact selected
  · exact selected

theorem optional_ok {decode : Decoder α} {context : DecodeContext} {json : Json} {value : α}
    (decoded : decode context (.ofJson json) = .ok value) (solid : json.isNull = false) :
    decode.optional context (.ofJson json) = .ok (some value) := by
  have given : decode.optional context (.ofJson json) =
      (decode context (.ofJson json)).map some := by
    cases json with
    | null => cases solid
    | bool | number | string | array | object => rfl
  rw [given, decoded]
  rfl

/-! ## Arrays and maps -/

theorem ofItems_eq_map (items : List Json) : Tree.ofItems items = items.map .ofJson := by
  induction items with
  | nil => rfl
  | cons item items ih => rw [Tree.ofItems, ih, List.map_cons]

theorem ofMembers_eq_map (members : List (String × Json)) :
    Tree.ofMembers members = members.map (fun member => (.text member.1, .ofJson member.2)) := by
  induction members with
  | nil => rfl
  | cons member members ih => rw [Tree.ofMembers, ih, List.map_cons]

theorem items_ok {decode : Decoder α} {write : α → Json} {context : DecodeContext}
    (decoded : ∀ value, decode context (.ofJson (write value)) = .ok value) (values : List α)
    (index : Nat) :
    items decode context index (values.map (fun value => .ofJson (write value))) = .ok values := by
  induction values generalizing index with
  | nil => rfl
  | cons value values ih =>
      simp only [List.map_cons, items, part_ok (decoded value), ih, bind, Except.bind]

theorem inverts_list {decode : Decoder α} {write : α → Json} {levels : Nat}
    (inverts : decode.Inverts write levels) :
    (list decode).Inverts (fun values => .array (values.map write)) (levels + 1) := by
  intro context values room
  have decoded := fun value =>
    inverts { context with depth := context.depth + 1 } value (by dsimp only; omega)
  have taken := items_ok decoded values 0
  have trees : Tree.ofItems (values.map write) =
      values.map (fun value => .ofJson (write value)) := by
    rw [ofItems_eq_map, List.map_map]
    rfl
  simp only [Tree.ofJson, trees, list, DecodeContext.enter_eq (show context.depth < 127 by omega),
    taken, Stop.finish, bind, Except.bind]

theorem insertEntry_last {key : String} {value : α} {entries : List (String × α)}
    (above : ∀ entry ∈ entries, entry.1 < key) :
    insertEntry key value entries = entries ++ [(key, value)] := by
  induction entries with
  | nil => rfl
  | cons head rest ih =>
      obtain ⟨name, bound⟩ := head
      have below : name < key := above (name, bound) List.mem_cons_self
      have notBefore : ¬key < name := String.lt_asymm below
      have different : key ≠ name := by
        rintro rfl
        exact String.lt_irrefl _ below
      rw [insertEntry, if_neg notBefore, if_neg different,
        ih (fun entry member => above entry (List.mem_cons_of_mem _ member))]
      rfl

theorem entries_ok {decode : Decoder α} {write : α → Json} {context : DecodeContext}
    (decoded : ∀ value, decode context (.ofJson (write value)) = .ok value)
    (remaining : List (String × α)) (index : Nat) (map whole : SortedMap α)
    (shape : map.entries ++ remaining = whole.entries) :
    entries decode context index
        (remaining.map (fun entry => (.text entry.1, .ofJson (write entry.2)))) map =
      .ok whole := by
  induction remaining generalizing index map with
  | nil =>
      rw [List.append_nil] at shape
      rw [SortedMap.ext shape]
      rfl
  | cons entry remaining ih =>
      obtain ⟨key, value⟩ := entry
      have ascending : Ascending (map.entries ++ (key, value) :: remaining) :=
        shape ▸ whole.ascending
      have above : ∀ other ∈ map.entries, other.1 < key := by
        intro other member
        exact (List.pairwise_append.mp ascending).2.2 other member (key, value) List.mem_cons_self
      have inserted : (map.insert key value).entries = map.entries ++ [(key, value)] :=
        insertEntry_last above
      have rest := ih (index + 1) (map.insert key value) (by rw [inserted]; simpa using shape)
      simp only [List.map_cons, entries, part_ok (decoded value), bind, Except.bind]
      exact rest

theorem inverts_sortedMap {decode : Decoder α} {write : α → Json} {levels : Nat}
    (inverts : decode.Inverts write levels) :
    (sortedMap decode).Inverts
      (fun map => .object (map.entries.map (fun entry => (entry.1, write entry.2))))
      (levels + 1) := by
  intro context map room
  have decoded := fun value =>
    inverts { context with depth := context.depth + 1 } value (by dsimp only; omega)
  have taken := entries_ok decoded map.entries 0 ∅ map rfl
  have trees : Tree.ofMembers (map.entries.map (fun entry => (entry.1, write entry.2))) =
      map.entries.map (fun entry => (.text entry.1, .ofJson (write entry.2))) := by
    rw [ofMembers_eq_map, List.map_map]
    rfl
  simp only [Tree.ofJson, trees, sortedMap,
    DecodeContext.enter_eq (show context.depth < 127 by omega), taken, Stop.finish, bind,
    Except.bind]

end Decoder

/-! ## Records -/

/-- Members that give fields their values: they stand in the order of the fields, and a field whose
value is the one that it has by default may be left out. -/
inductive Written (levels : Nat) :
    (fields : List Field) → FieldValues fields → List (String × Json) → Prop where
  | nil : Written levels [] () []
  | present {field : Field} {fields : List Field} {value : field.Value}
      {values : FieldValues fields} {json : Json} {members : List (String × Json)}
      (decoded : ∀ context : DecodeContext, context.depth + levels ≤ 127 →
        field.decode context (.ofJson json) = .ok value)
      (rest : Written levels fields values members) :
      Written levels (field :: fields) (value, values) ((field.name, json) :: members)
  | absent {field : Field} {fields : List Field} {value : field.Value}
      {values : FieldValues fields} {members : List (String × Json)}
      (default : field.absent = some value) (rest : Written levels fields values members) :
      Written levels (field :: fields) (value, values) members

namespace Written

variable {levels : Nat} {fields : List Field} {values : FieldValues fields}
  {members : List (String × Json)}

theorem required {name : String} {decode : Decoder α} {write : α → Json} {value : α}
    {own : Nat} (inverts : decode.Inverts write own) (fits : own ≤ levels)
    (rest : Written levels fields values members) :
    Written levels (.required name decode :: fields) (value, values)
      ((name, write value) :: members) := by
  refine .present ?_ rest
  intro context room
  exact inverts context value (by omega)

theorem withDefault {name : String} {decode : Decoder α} {write : α → Json} {value default : α}
    {own : Nat} (inverts : decode.Inverts write own) (fits : own ≤ levels)
    (rest : Written levels fields values members) :
    Written levels (.withDefault name decode default :: fields) (value, values)
      ((name, write value) :: members) := by
  refine .present ?_ rest
  intro context room
  exact inverts context value (by omega)

theorem optional {name : String} {decode : Decoder α} {write : α → Json} {value : Option α}
    {own : Nat} (inverts : decode.Inverts write own) (fits : own ≤ levels)
    (solid : ∀ value, (write value).isNull = false)
    (rest : Written levels fields values members) :
    Written levels (.optional name decode :: fields) (value, values)
      (Json.optionalMember name (value.map write) ++ members) := by
  cases value with
  | none => exact .absent rfl rest
  | some value =>
      refine .present ?_ rest
      intro context room
      exact Decoder.optional_ok (inverts context value (by omega)) (solid value)

theorem optionalLast {name : String} {decode : Decoder α} {write : α → Json} {value : Option α}
    {own : Nat} (inverts : decode.Inverts write own) (fits : own ≤ levels)
    (solid : ∀ value, (write value).isNull = false) :
    Written levels [.optional name decode] (value, ())
      (Json.optionalMember name (value.map write)) := by
  have written : Written levels [.optional name decode] (value, ())
      (Json.optionalMember name (value.map write) ++ []) :=
    optional inverts fits solid .nil
  rw [List.append_nil] at written
  exact written

theorem names (written : Written levels fields values members) :
    ∀ member ∈ members, member.1 ∈ fields.map Field.name := by
  induction written with
  | nil => simp
  | present decoded rest ih =>
      intro member found
      rcases List.mem_cons.mp found with rfl | other
      · exact List.mem_cons_self
      · exact List.mem_cons_of_mem _ (ih member other)
  | absent default rest ih =>
      intro member found
      exact List.mem_cons_of_mem _ (ih member found)

theorem fillAll_cons {context : DecodeContext} {field : Field} {slot : Option field.Value}
    {before after : Slots fields} {index : Nat}
    (other : ∀ member ∈ members, field.name ≠ member.1)
    (filled : Slots.fillAll context fields index (Tree.ofMembers members) before = .ok after) :
    Slots.fillAll context (field :: fields) index (Tree.ofMembers members) (slot, before) =
      .ok (slot, after) := by
  induction members generalizing index before with
  | nil =>
      cases filled
      rfl
  | cons member members ih =>
      obtain ⟨name, json⟩ := member
      have different : field.name ≠ name := other (name, json) List.mem_cons_self
      simp only [Tree.ofMembers, Slots.fillAll, bind, Except.bind] at filled ⊢
      simp only [Slots.fill, if_neg different, bind, Except.bind]
      cases step : Slots.fill context index name (.ofJson json) fields before with
      | error fault => simp [step] at filled
      | ok next =>
          simp only [step] at filled ⊢
          exact ih (fun member found => other member (List.mem_cons_of_mem _ found)) filled

theorem fillAll (written : Written levels fields values members)
    (distinct : (fields.map Field.name).Nodup) {context : DecodeContext}
    (room : context.depth + levels ≤ 127) (index : Nat) :
    ∃ slots, Slots.fillAll context fields index (Tree.ofMembers members) (.empty fields) =
        .ok slots ∧ slots.finish = .ok values := by
  induction written generalizing index with
  | nil => exact ⟨(), rfl, rfl⟩
  | @present field fields value values json members decoded rest ih =>
      obtain ⟨fresh, distinct⟩ := List.nodup_cons.mp distinct
      obtain ⟨slots, filled, finished⟩ := ih distinct (index + 1)
      have other : ∀ member ∈ members, field.name ≠ member.1 := by
        intro member found same
        exact fresh (same ▸ rest.names member found)
      refine ⟨(some value, slots), ?_, ?_⟩
      · have first : Slots.fill context index field.name (.ofJson json) (field :: fields)
            (none, Slots.empty fields) = .ok (some value, Slots.empty fields) := by
          rw [Slots.fill, if_pos rfl]
          simp only [Decoder.part_ok (decoded context room), bind, Except.bind]
        simp only [Tree.ofMembers, Slots.fillAll, Slots.empty, first, bind, Except.bind]
        exact fillAll_cons other filled
      · simp only [Slots.finish, finished, bind, Except.bind]
  | @absent field fields value values members default rest ih =>
      obtain ⟨fresh, distinct⟩ := List.nodup_cons.mp distinct
      obtain ⟨slots, filled, finished⟩ := ih distinct index
      have other : ∀ member ∈ members, field.name ≠ member.1 := by
        intro member found same
        exact fresh (same ▸ rest.names member found)
      refine ⟨(none, slots), fillAll_cons other filled, ?_⟩
      simp only [Slots.finish, default, finished, bind, Except.bind]

end Written

theorem Decoder.inverts_record {name : String} {fields : List Field}
    {build : FieldValues fields → α} {members : α → List (String × Json)} {levels : Nat}
    (values : α → FieldValues fields)
    (distinct : (fields.map Field.name).Nodup) (built : ∀ value, build (values value) = value)
    (written : ∀ value, Written levels fields (values value) (members value)) :
    (record name fields build).Inverts (fun value => .object (members value)) (levels + 1) := by
  intro context value room
  obtain ⟨slots, filled, finished⟩ := (written value).fillAll distinct
    (show { context with depth := context.depth + 1 }.depth + levels ≤ 127 by dsimp only; omega) 0
  simp only [Tree.ofJson, record, DecodeContext.enter_eq (show context.depth < 127 by omega),
    filled, finished, Stop.finish, built, bind, Except.bind]

theorem Decoder.ofText_pretty {decode : Decoder α} {json : Json} (kept : json.Exact) {value : α}
    (decoded : decode ⟨true, 0⟩ (.ofJson json) = .ok value) :
    decode.ofText json.pretty = .ok value := by
  rw [Decoder.ofText, Document.ofText_pretty kept, decoded]
  rfl

theorem Decoder.Inverts.ofText_pretty {decode : Decoder α} {write : α → Json} {levels : Nat}
    (inverts : decode.Inverts write levels) (shallow : levels ≤ 127) {value : α}
    (kept : (write value).Exact) : decode.ofText (write value).pretty = .ok value :=
  Decoder.ofText_pretty kept (inverts ⟨true, 0⟩ value (by dsimp only; omega))

end PrivateComputation
