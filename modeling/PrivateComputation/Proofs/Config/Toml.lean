import Mathlib.Data.List.Infix
import PrivateComputation.Config.Toml.Reader
import PrivateComputation.Proofs.Json.Equality

/-!
Tables of TOML documents. At every depth, a document that has been read lists its entries in
ascending order of their keys, and so does its JSON value.
-/

namespace PrivateComputation

namespace Toml

theorem itemsToJson_eq_map (items : List Toml) : itemsToJson items = items.map toJson := by
  induction items with
  | nil => rfl
  | cons item items ih => rw [itemsToJson, ih, List.map_cons]

theorem entriesToJson_eq_map (entries : List (String × Toml)) :
    entriesToJson entries = entries.map (fun entry => (entry.1, entry.2.toJson)) := by
  induction entries with
  | nil => rfl
  | cons entry entries ih => rw [entriesToJson, ih, List.map_cons]

def Sorted (toml : Toml) : Prop := toml.toJson.Sorted

theorem sorted_string (value : String) : (Toml.string value).Sorted := .string value

theorem sorted_boolean (value : Bool) : (Toml.boolean value).Sorted := .bool value

theorem sorted_integer (value : Int) : (Toml.integer value).Sorted := .number _

theorem sorted_dateTime (value : TomlDateTime) : (Toml.dateTime value).Sorted := .string _

theorem sorted_float (value : TomlFloat) : (Toml.float value).Sorted := by
  cases value with
  | finite value => exact .number _
  | infinite negative => exact .null
  | nan => exact .null

theorem sorted_array_iff {items : List Toml} :
    (Toml.array items).Sorted ↔ ∀ item ∈ items, item.Sorted := by
  rw [Sorted, toJson, itemsToJson_eq_map]
  constructor
  · rintro (_ | _ | _ | _ | each) item member
    exact each _ (List.mem_map_of_mem member)
  · intro each
    apply Json.Sorted.array
    intro json member
    obtain ⟨item, there, rfl⟩ := List.mem_map.mp member
    exact each item there

theorem sorted_table_iff {entries : List (String × Toml)} : (Toml.table entries).Sorted ↔
    Ascending entries ∧ ∀ entry ∈ entries, entry.2.Sorted := by
  rw [Sorted, toJson, entriesToJson_eq_map]
  constructor
  · rintro (_ | _ | _ | _ | _ | ⟨ascending, each⟩)
    constructor
    · exact (ascending_map_iff toJson entries).mp ascending
    · intro entry member
      exact each _ (List.mem_map_of_mem member)
  · rintro ⟨ascending, each⟩
    apply Json.Sorted.object
    · exact (ascending_map_iff toJson entries).mpr ascending
    · intro member listed
      obtain ⟨entry, there, rfl⟩ := List.mem_map.mp listed
      exact each entry there

end Toml

/-! ## Tables while a document is read -/

def TomlNode.Sorted (node : TomlNode) : Prop := (TomlSection.finishNode node).Sorted

namespace TomlSection

theorem finishEntries_eq_map (entries : List (String × TomlNode)) :
    finishEntries entries = entries.map (fun entry => (entry.1, finishNode entry.2)) := by
  induction entries with
  | nil => rfl
  | cons entry entries ih => rw [finishEntries, ih, List.map_cons]

theorem finishAll_eq_map (tables : List TomlSection) :
    finishAll tables = tables.map (fun table => .table table.finish) := by
  induction tables with
  | nil => rfl
  | cons table tables ih => rw [finishAll, ih, List.map_cons]

def Sorted (table : TomlSection) : Prop := (Toml.table table.finish).Sorted

theorem sorted_iff {table : TomlSection} : table.Sorted ↔
    Ascending table.entries ∧ ∀ entry ∈ table.entries, entry.2.Sorted := by
  obtain ⟨implicit, dotted, entries⟩ := table
  rw [Sorted, finish, finishEntries_eq_map, Toml.sorted_table_iff,
    ascending_map_iff finishNode, List.forall_mem_map]
  exact Iff.rfl

theorem sorted_tables_iff {tables : List TomlSection} :
    (TomlNode.tables tables).Sorted ↔ ∀ table ∈ tables, table.Sorted := by
  rw [TomlNode.Sorted, finishNode, finishAll_eq_map, Toml.sorted_array_iff]
  simp [Sorted]

theorem sorted_empty : empty.Sorted := sorted_iff.mpr ⟨List.Pairwise.nil, by simp [empty, entries]⟩

theorem sorted_opened (byDots : Bool) : (TomlSection.mk true byDots []).Sorted := sorted_empty

section Sorted

variable {table : TomlSection} {key : String} {node : TomlNode}

theorem Sorted.get? (sorted : table.Sorted) (found : table.get? key = some node) : node.Sorted :=
  (sorted_iff.mp sorted).2 _ (mem_of_lookup found)

theorem Sorted.insert (sorted : table.Sorted) (new : node.Sorted) :
    (table.insert key node).Sorted := by
  obtain ⟨ascending, each⟩ := sorted_iff.mp sorted
  apply sorted_iff.mpr
  constructor
  · exact ascending.insertEntry
  · intro entry there
    rcases mem_insertEntry there with rfl | old
    · exact new
    · exact each entry old

theorem Sorted.erase (sorted : table.Sorted) : (table.erase key).Sorted := by
  obtain ⟨ascending, each⟩ := sorted_iff.mp sorted
  apply sorted_iff.mpr
  constructor
  · exact ascending.filter _
  · intro entry there
    exact each entry (List.mem_of_mem_filter there)

theorem Sorted.explicit (sorted : table.Sorted) : table.explicit.Sorted := by
  cases table
  exact sorted

theorem Sorted.getLast? {tables : List TomlSection} (sorted : ∀ table ∈ tables, table.Sorted)
    (last : tables.getLast? = some table) : table.Sorted :=
  sorted table (List.mem_of_getLast? last)

theorem Sorted.replaceLast {tables : List TomlSection} (sorted : ∀ table ∈ tables, table.Sorted)
    (new : table.Sorted) : (TomlNode.tables (tables.dropLast ++ [table])).Sorted := by
  apply sorted_tables_iff.mpr
  intro other member
  rcases List.mem_append.mp member with earlier | last
  · exact sorted other (List.mem_of_mem_dropLast earlier)
  · obtain rfl := List.mem_singleton.mp last
    exact new

end Sorted

def Orders (change : TomlSection → Option TomlSection) : Prop :=
  ∀ before after, before.Sorted → change before = some after → after.Sorted

theorem Orders.update {byDots : Bool} {change : TomlSection → Option TomlSection}
    (orders : Orders change) (path : List String) : Orders (update byDots change path) := by
  -- Every table on the path is put back with the changed one in it.
  induction path with
  | nil => exact orders
  | cons key path ih =>
      intro table changed sorted done
      rw [TomlSection.update] at done
      split at done
      next =>
        obtain ⟨inner, opened, done⟩ := Option.bind_eq_some_iff.mp done
        obtain rfl := Option.some.inj done
        exact sorted.insert (ih _ inner (sorted_opened byDots) opened)
      next => cases done
      next tables found =>
        have each := sorted_tables_iff.mp (sorted.get? found)
        obtain ⟨latest, last, done⟩ := Option.bind_eq_some_iff.mp done
        obtain ⟨inner, updated, done⟩ := Option.bind_eq_some_iff.mp done
        obtain rfl := Option.some.inj done
        apply sorted.insert
        exact Sorted.replaceLast each (ih latest inner (Sorted.getLast? each last) updated)
      next inner found =>
        split at done
        · cases done
        · obtain ⟨later, updated, done⟩ := Option.bind_eq_some_iff.mp done
          obtain rfl := Option.some.inj done
          exact sorted.insert (ih inner later (sorted.get? found) updated)

theorem Orders.bind {path : List String} {key : String} {value : Toml} (new : value.Sorted) :
    Orders (bind path key value) := by
  apply Orders.update
  intro before after sorted done
  dsimp only at done
  split at done
  · cases done
  · split at done
    · cases done
    · obtain rfl := Option.some.inj done
      exact sorted.insert new

end TomlSection

namespace TomlDraft

open TomlSection (Orders)

structure Sorted (draft : TomlDraft) : Prop where
  root : draft.root.Sorted
  current : draft.current.Sorted

theorem sorted_empty : empty.Sorted := ⟨TomlSection.sorted_empty, TomlSection.sorted_empty⟩

variable {draft later : TomlDraft} {path : List String} {key : String}

theorem Sorted.close {table : TomlSection} (sorted : draft.Sorted)
    (closed : draft.close = some table) : table.Sorted := by
  unfold TomlDraft.close at closed
  split at closed
  next =>
    obtain rfl := Option.some.inj closed
    exact sorted.current
  next front key header =>
    refine Orders.update ?_ front _ _ sorted.root closed
    intro parent after parentSorted done
    dsimp only at done
    split at done
    · split at done
      next =>
        obtain rfl := Option.some.inj done
        apply parentSorted.insert
        simpa [TomlSection.sorted_tables_iff] using sorted.current
      next tables found =>
        obtain rfl := Option.some.inj done
        apply parentSorted.insert
        apply TomlSection.sorted_tables_iff.mpr
        intro table member
        rcases List.mem_append.mp member with earlier | last
        · exact TomlSection.sorted_tables_iff.mp (parentSorted.get? found) table earlier
        · obtain rfl := List.mem_singleton.mp last
          exact sorted.current
      next => cases done
    · split at done
      · cases done
      · obtain rfl := Option.some.inj done
        exact parentSorted.insert sorted.current

theorem Sorted.bind {value : Toml} (sorted : draft.Sorted) (new : value.Sorted)
    (done : draft.bind path key value = some later) : later.Sorted := by
  obtain ⟨current, bound, done⟩ := Option.bind_eq_some_iff.mp done
  obtain rfl := Option.some.inj done
  exact ⟨sorted.root, Orders.bind new _ current sorted.current bound⟩

theorem sorted_lookup {table found : TomlSection} (sorted : table.Sorted)
    (there : lookup path table = some found) : found.Sorted := by
  induction path generalizing table with
  | nil => exact Option.some.inj there ▸ sorted
  | cons key path ih =>
      rw [lookup] at there
      split at there
      next inner held => exact ih (sorted.get? held) there
      next tables held =>
        obtain ⟨latest, last, there⟩ := Option.bind_eq_some_iff.mp there
        have each := TomlSection.sorted_tables_iff.mp (sorted.get? held)
        exact ih (TomlSection.Sorted.getLast? each last) there
      next => cases there

theorem Sorted.openTable (sorted : draft.Sorted) (done : draft.openTable path key = some later) :
    later.Sorted := by
  obtain ⟨root, closed, done⟩ := Option.bind_eq_some_iff.mp done
  have rootSorted := sorted.close closed
  have parentSorted : ((lookup path root).getD .empty).Sorted := by
    cases found : lookup path root with
    | none => exact TomlSection.sorted_empty
    | some parent => exact sorted_lookup rootSorted found
  dsimp only at done
  split at done
  next =>
    obtain ⟨opened, updated, done⟩ := Option.bind_eq_some_iff.mp done
    obtain rfl := Option.some.inj done
    refine ⟨Orders.update ?_ path root opened rootSorted updated, TomlSection.sorted_empty⟩
    intro before after same kept
    exact Option.some.inj kept ▸ same
  next table found =>
    split at done
    · obtain ⟨opened, updated, done⟩ := Option.bind_eq_some_iff.mp done
      obtain rfl := Option.some.inj done
      refine ⟨Orders.update ?_ path root opened rootSorted updated,
        TomlSection.Sorted.explicit (parentSorted.get? found)⟩
      intro before after same erased
      exact Option.some.inj erased ▸ same.erase
    · cases done
  next => cases done

theorem Sorted.openArray (sorted : draft.Sorted) (done : draft.openArray path key = some later) :
    later.Sorted := by
  obtain ⟨root, closed, done⟩ := Option.bind_eq_some_iff.mp done
  obtain ⟨opened, updated, done⟩ := Option.bind_eq_some_iff.mp done
  obtain rfl := Option.some.inj done
  refine ⟨Orders.update ?_ path root opened (sorted.close closed) updated,
    TomlSection.sorted_empty⟩
  intro before after same kept
  dsimp only at kept
  split at kept
  · exact Option.some.inj kept ▸ same
  · exact Option.some.inj kept ▸ same
  · cases kept

end TomlDraft

/-! ## Reading -/

namespace TomlText

def FindsSorted (value : Reader Toml) : Prop :=
  ∀ text found rest, value text = some (found, rest) → found.Sorted

theorem sorted_of_map {α : Type} (wrap : α → Toml) (each : ∀ value, (wrap value).Sorted)
    {found : Option (α × List Char)} {toml : Toml} {rest : List Char}
    (read : found.map (fun (value, rest) => (wrap value, rest)) = some (toml, rest)) :
    toml.Sorted := by
  obtain ⟨⟨value, after⟩, -, same⟩ := Option.map_eq_some_iff.mp read
  cases same
  exact each value

theorem sorted_of_number {text rest : List Char} {found : Toml}
    (read : number text = some (found, rest)) : found.Sorted := by
  unfold number at read
  split at read
  · cases read
    exact Toml.sorted_dateTime _
  · split at read
    · cases read
      exact Toml.sorted_float _
    · exact sorted_of_map Toml.integer Toml.sorted_integer read

theorem sorted_of_arrayItems {value : Reader Toml} (finds : FindsSorted value) {count : Nat}
    {text rest : List Char} {items : List Toml}
    (read : arrayItems value count text = some (items, rest)) : ∀ item ∈ items, item.Sorted := by
  induction count generalizing text items with
  | zero => cases read
  | succ count ih =>
      rw [arrayItems] at read
      obtain ⟨filled, -, read⟩ := Option.bind_eq_some_iff.mp read
      split at read
      · cases read
        simp
      · obtain ⟨⟨item, after⟩, first, read⟩ := Option.bind_eq_some_iff.mp read
        obtain ⟨filled, -, read⟩ := Option.bind_eq_some_iff.mp read
        split at read
        · obtain ⟨⟨others, after⟩, later, read⟩ := Option.bind_eq_some_iff.mp read
          cases read
          exact List.forall_mem_cons.mpr ⟨finds _ _ _ first, ih later⟩
        · cases read
          simpa using finds _ _ _ first
        · cases read

theorem sorted_of_inlineEntries {value : Reader Toml} (finds : FindsSorted value) {count : Nat}
    {text rest : List Char} {table found : TomlSection} (sorted : table.Sorted)
    (read : inlineEntries value count table text = some (found, rest)) : found.Sorted := by
  induction count generalizing text table with
  | zero => cases read
  | succ count ih =>
      rw [inlineEntries] at read
      obtain ⟨⟨⟨path, key⟩, entry, after⟩, first, read⟩ := Option.bind_eq_some_iff.mp read
      obtain ⟨bound, done, read⟩ := Option.bind_eq_some_iff.mp read
      have entrySorted : entry.Sorted := by
        obtain ⟨keyed, -, first⟩ := Option.bind_eq_some_iff.mp first
        obtain ⟨equals, -, first⟩ := Option.bind_eq_some_iff.mp first
        obtain ⟨⟨other, last⟩, valued, first⟩ := Option.bind_eq_some_iff.mp first
        simp only [Option.some.injEq, Prod.mk.injEq] at first
        exact first.2.1 ▸ finds _ _ _ valued
      have boundSorted := TomlSection.Orders.bind entrySorted table bound sorted done
      split at read
      · exact ih boundSorted read
      · cases read
        exact boundSorted
      · cases read

theorem sorted_of_inlineTable {value : Reader Toml} (finds : FindsSorted value) :
    FindsSorted (inlineTable value) := by
  intro text found rest read
  unfold inlineTable at read
  split at read
  · cases read
    exact TomlSection.sorted_empty
  · obtain ⟨⟨table, after⟩, entries, read⟩ := Option.bind_eq_some_iff.mp read
    cases read
    exact sorted_of_inlineEntries finds TomlSection.sorted_empty entries

theorem findsSorted_value (depth : Nat) : FindsSorted (value depth) := by
  induction depth using Nat.strongRecOn with
  | ind depth ih =>
      intro text found rest read
      unfold value at read
      split at read
      next _ _ inner =>
        cases depth with
        | zero => cases read
        | succ depth =>
            obtain ⟨⟨items, after⟩, listed, read⟩ := Option.bind_eq_some_iff.mp read
            cases read
            apply Toml.sorted_array_iff.mpr
            exact sorted_of_arrayItems (ih depth (Nat.lt_succ_self depth)) listed
      next _ _ inner =>
        cases depth with
        | zero => cases read
        | succ depth =>
            exact sorted_of_inlineTable (ih depth (Nat.lt_succ_self depth)) _ _ _ read
      next =>
        split at read
        · obtain ⟨_, -, same⟩ := Option.map_eq_some_iff.mp read
          cases same
          exact Toml.sorted_boolean true
        · obtain ⟨_, -, same⟩ := Option.map_eq_some_iff.mp read
          cases same
          exact Toml.sorted_boolean false
        · exact sorted_of_map Toml.float Toml.sorted_float read
        · exact sorted_of_map Toml.float Toml.sorted_float read
        · split at read
          · exact sorted_of_map Toml.string Toml.sorted_string read
          · split at read
            · exact sorted_of_number read
            · cases read
        · cases read

theorem sorted_of_bindLine {draft later : TomlDraft} {text rest : List Char}
    (sorted : draft.Sorted) (read : bindLine draft text = some (later, rest)) : later.Sorted := by
  obtain ⟨keyed, -, read⟩ := Option.bind_eq_some_iff.mp read
  obtain ⟨equals, -, read⟩ := Option.bind_eq_some_iff.mp read
  obtain ⟨⟨bound, after⟩, valued, read⟩ := Option.bind_eq_some_iff.mp read
  obtain ⟨ended, -, read⟩ := Option.bind_eq_some_iff.mp read
  obtain ⟨changed, done, read⟩ := Option.bind_eq_some_iff.mp read
  cases read
  exact sorted.bind (findsSorted_value 79 _ _ _ valued) done

theorem sorted_of_headerLine {draft later : TomlDraft} {text rest : List Char}
    (sorted : draft.Sorted) (read : headerLine draft text = some (later, rest)) :
    later.Sorted := by
  unfold headerLine at read
  split at read
  · obtain ⟨keyed, -, read⟩ := Option.bind_eq_some_iff.mp read
    obtain ⟨closed, -, read⟩ := Option.bind_eq_some_iff.mp read
    obtain ⟨ended, -, read⟩ := Option.bind_eq_some_iff.mp read
    obtain ⟨changed, done, read⟩ := Option.bind_eq_some_iff.mp read
    cases read
    exact sorted.openArray done
  · obtain ⟨keyed, -, read⟩ := Option.bind_eq_some_iff.mp read
    obtain ⟨closed, -, read⟩ := Option.bind_eq_some_iff.mp read
    obtain ⟨ended, -, read⟩ := Option.bind_eq_some_iff.mp read
    obtain ⟨changed, done, read⟩ := Option.bind_eq_some_iff.mp read
    cases read
    exact sorted.openTable done

theorem sorted_of_readLines {count : Nat} {draft later : TomlDraft} {text : List Char}
    (sorted : draft.Sorted) (read : readLines count draft text = some later) : later.Sorted := by
  -- Line by line; blank lines and comments leave the draft as it is.
  induction count generalizing draft text with
  | zero =>
      rw [readLines] at read
      split at read
      · exact Option.some.inj read ▸ sorted
      · cases read
  | succ count ih =>
      rw [readLines] at read
      split at read
      · exact Option.some.inj read ▸ sorted
      · obtain ⟨⟨changed, rest⟩, header, read⟩ := Option.bind_eq_some_iff.mp read
        exact ih (sorted_of_headerLine sorted header) read
      · obtain ⟨rest, -, read⟩ := Option.bind_eq_some_iff.mp read
        exact ih sorted read
      · split at read
        · exact ih sorted read
        · obtain ⟨⟨changed, rest⟩, line, read⟩ := Option.bind_eq_some_iff.mp read
          exact ih (sorted_of_bindLine sorted line) read

end TomlText

theorem Toml.sorted_of_ofText {text : String} {toml : Toml} (read : ofText text = some toml) :
    toml.Sorted := by
  obtain ⟨draft, lines, read⟩ := Option.bind_eq_some_iff.mp read
  obtain ⟨table, closed, read⟩ := Option.bind_eq_some_iff.mp read
  obtain rfl := Option.some.inj read
  exact (TomlText.sorted_of_readLines TomlDraft.sorted_empty lines).close closed

end PrivateComputation
