import Mathlib.Data.List.Basic
import PrivateComputation.SortedMap

/-!
A sorted map is determined by its bindings, and its keys are the names that are bound.
-/

namespace PrivateComputation

/-- A list of the texts with a property, in ascending order and each of them once. -/
structure ListsExactly (texts : List String) (chosen : String → Prop) : Prop where
  ascending : texts.Pairwise (· < ·)
  mem_iff : ∀ text, text ∈ texts ↔ chosen text

theorem ascending_map_iff {Value Other : Type} (change : Value → Other)
    (entries : List (String × Value)) :
    Ascending (entries.map (fun entry => (entry.1, change entry.2))) ↔ Ascending entries := by
  rw [Ascending, List.pairwise_map]
  exact Iff.rfl

namespace SortedMap

variable {Value : Type} {map left right : SortedMap Value} {key : String} {value : Value}

theorem lookup_of_mem {entries : List (String × Value)} (ascending : Ascending entries)
    (member : (key, value) ∈ entries) : entries.lookup key = some value := by
  induction entries with
  | nil => cases member
  | cons entry rest ih =>
      obtain ⟨name, bound⟩ := entry
      obtain ⟨below, tail⟩ := List.pairwise_cons.mp ascending
      rw [lookup_entry]
      rcases List.mem_cons.mp member with same | later
      · cases same
        rw [if_pos rfl]
      · rw [if_neg, ih tail later]
        intro same
        subst same
        exact String.lt_irrefl _ (below (key, value) later)

theorem mem_entries_iff : (key, value) ∈ map.entries ↔ map.get? key = some value :=
  ⟨lookup_of_mem map.ascending, mem_of_get?⟩

theorem mem_keys_iff : key ∈ map.keys ↔ map.contains key = true := by
  rw [contains]
  constructor
  · intro member
    obtain ⟨⟨name, value⟩, there, rfl⟩ := List.mem_map.mp member
    rw [mem_entries_iff.mp there, Option.isSome_some]
  · intro bound
    obtain ⟨value, found⟩ := Option.isSome_iff_exists.mp bound
    exact List.mem_map.mpr ⟨(key, value), mem_entries_iff.mpr found, rfl⟩

theorem contains_insert (map : SortedMap Value) (key name : String) (value : Value) :
    (map.insert key value).contains name = true ↔ name = key ∨ map.contains name = true := by
  rw [contains, contains, get?_insert]
  by_cases same : name = key <;> simp [same]

theorem contains_erase (map : SortedMap Value) (key name : String) :
    (map.erase key).contains name = true ↔ name ≠ key ∧ map.contains name = true := by
  rw [contains, contains, get?_erase]
  by_cases same : name = key <;> simp [same]

theorem nodup_keys (map : SortedMap Value) : map.keys.Nodup := by
  refine List.pairwise_map.mpr (map.ascending.imp ?_)
  intro earlier later before same
  exact String.lt_irrefl _ (same ▸ before)

theorem nodup_entries (map : SortedMap Value) : map.entries.Nodup := by
  refine map.ascending.imp ?_
  intro earlier later before same
  exact String.lt_irrefl _ (same ▸ before)

theorem get?_filterKeys (map : SortedMap Value) (keep : String → Bool) (key : String) :
    (map.filterKeys keep).get? key = if keep key then map.get? key else none := by
  refine Option.ext (fun value => ?_)
  rw [← mem_entries_iff, filterKeys, List.mem_filter, mem_entries_iff]
  by_cases kept : keep key = true <;> simp [kept]

theorem get?_filter_eq_some_iff (map : SortedMap Value) (keep : Value → Bool) (key : String)
    (value : Value) :
    (map.filter keep).get? key = some value ↔ map.get? key = some value ∧ keep value = true := by
  rw [← mem_entries_iff, filter, List.mem_filter, mem_entries_iff]

theorem ext_get? (same : ∀ key, left.get? key = right.get? key) : left = right := by
  refine ext (List.Perm.eq_of_pairwise ?_ left.ascending right.ascending ?_)
  · intro earlier later _ _ before after
    exact absurd after (String.lt_asymm before)
  · refine (List.perm_ext_iff_of_nodup left.nodup_entries right.nodup_entries).mpr ?_
    rintro ⟨key, value⟩
    rw [mem_entries_iff, mem_entries_iff, same]

theorem get?_ofList_map (names : List String) (value : Value) (key : String) :
    (ofList (names.map (fun name => (name, value)))).get? key =
      if key ∈ names then some value else none := by
  have bound : ∀ map : SortedMap Value,
      ((names.map (fun name => (name, value))).foldl
        (fun map entry => map.insert entry.1 entry.2) map).get? key =
        if key ∈ names then some value else map.get? key := by
    induction names with
    | nil => simp
    | cons name rest ih =>
        intro map
        rw [List.map_cons, List.foldl_cons, ih, get?_insert]
        by_cases later : key ∈ rest
        · simp [later]
        · simp [later]
  exact bound empty

end SortedMap

end PrivateComputation
