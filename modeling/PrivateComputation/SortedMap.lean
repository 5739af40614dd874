/-!
Maps with text keys, stored as entries in strictly ascending key order, so that two maps with the
same bindings are equal and every listing comes out sorted.
-/

namespace PrivateComputation

variable {Value : Type}

/-- Entries listed in strictly ascending key order. -/
def Ascending (entries : List (String × Value)) : Prop :=
  entries.Pairwise (fun earlier later => earlier.1 < later.1)

/-- Binds a key in a list of entries in ascending order, replacing an older binding. -/
def insertEntry (key : String) (value : Value) :
    List (String × Value) → List (String × Value)
  | [] => [(key, value)]
  | (name, bound) :: rest =>
      if key < name then (key, value) :: (name, bound) :: rest
      else if key = name then (key, value) :: rest
      else (name, bound) :: insertEntry key value rest

theorem mem_insertEntry {key : String} {value : Value} {entry : String × Value}
    {entries : List (String × Value)} (member : entry ∈ insertEntry key value entries) :
    entry = (key, value) ∨ entry ∈ entries := by
  induction entries with
  | nil => simpa [insertEntry] using member
  | cons head rest ih =>
      obtain ⟨name, bound⟩ := head
      simp only [insertEntry] at member
      split at member
      · simpa using member
      · split at member
        · rcases List.mem_cons.1 member with found | found
          · exact Or.inl found
          · exact Or.inr (List.mem_cons_of_mem _ found)
        · rcases List.mem_cons.1 member with found | found
          · exact Or.inr (found ▸ List.mem_cons_self)
          · rcases ih found with new | old
            · exact Or.inl new
            · exact Or.inr (List.mem_cons_of_mem _ old)

theorem Ascending.insertEntry {key : String} {value : Value} {entries : List (String × Value)}
    (ascending : Ascending entries) : Ascending (insertEntry key value entries) := by
  induction entries with
  | nil => exact List.pairwise_singleton _ _
  | cons head rest ih =>
      obtain ⟨name, bound⟩ := head
      obtain ⟨below, tail⟩ := List.pairwise_cons.1 ascending
      simp only [PrivateComputation.insertEntry]
      split
      next before =>
        refine List.pairwise_cons.2 ⟨?_, ascending⟩
        intro entry member
        rcases List.mem_cons.1 member with found | found
        · exact found ▸ before
        · exact String.lt_trans before (below entry found)
      next notBefore =>
        split
        next same =>
          exact List.pairwise_cons.2 ⟨fun entry member => same ▸ below entry member, tail⟩
        next different =>
          refine List.pairwise_cons.2 ⟨?_, ih tail⟩
          intro entry member
          rcases mem_insertEntry member with new | old
          · subst new
            have order : name ≤ key := String.not_lt.1 notBefore
            rcases Decidable.em (name < key) with less | notLess
            · exact less
            · exact absurd (String.le_antisymm (String.not_lt.1 notLess) order) different
          · exact below entry old

theorem lookup_entry (name key : String) (value : Value) (rest : List (String × Value)) :
    ((key, value) :: rest).lookup name = if name = key then some value else rest.lookup name := by
  rw [List.lookup_cons]
  by_cases same : name = key
  · simp [same]
  · simp [same, beq_eq_false_iff_ne.mpr same]

theorem mem_of_lookup {key : String} {value : Value} {entries : List (String × Value)}
    (found : entries.lookup key = some value) : (key, value) ∈ entries := by
  obtain ⟨before, after, split, _⟩ := List.lookup_eq_some_iff.mp found
  rw [split]
  exact List.mem_append_right before List.mem_cons_self

theorem lookup_insertEntry (key name : String) (value : Value)
    (entries : List (String × Value)) :
    (insertEntry key value entries).lookup name =
      if name = key then some value else entries.lookup name := by
  induction entries with
  | nil => simp only [insertEntry, lookup_entry]
  | cons head rest ih =>
      obtain ⟨other, bound⟩ := head
      simp only [insertEntry]
      split
      · simp only [lookup_entry]
      · split
        next equal =>
          subst equal
          simp only [lookup_entry]
          by_cases same : name = key <;> simp [same]
        next different =>
          simp only [lookup_entry, ih]
          by_cases same : name = key
          · simp [same, different]
          · simp [same]

theorem lookup_filter_ne (key name : String) (entries : List (String × Value)) :
    (entries.filter (fun entry => entry.1 ≠ key)).lookup name =
      if name = key then none else entries.lookup name := by
  induction entries with
  | nil => simp
  | cons head rest ih =>
      obtain ⟨other, bound⟩ := head
      by_cases dropped : other = key
      · rw [List.filter_cons_of_neg (by simp [dropped]), ih, lookup_entry]
        by_cases same : name = key <;> simp [same, dropped]
      · rw [List.filter_cons_of_pos (by simp [dropped]), lookup_entry, lookup_entry, ih]
        by_cases same : name = key
        · simp [same, Ne.symm dropped]
        · simp [same]

structure SortedMap (Value : Type) where
  entries : List (String × Value)
  ascending : Ascending entries

namespace SortedMap

theorem ext {left right : SortedMap Value} (same : left.entries = right.entries) :
    left = right := by
  cases left
  cases right
  cases same
  rfl

instance [DecidableEq Value] : DecidableEq (SortedMap Value) := fun left right =>
  if same : left.entries = right.entries then isTrue (ext same)
  else isFalse (fun equal => same (congrArg entries equal))

instance [BEq Value] : BEq (SortedMap Value) := ⟨fun left right => left.entries == right.entries⟩

def empty : SortedMap Value := ⟨[], List.Pairwise.nil⟩

instance : EmptyCollection (SortedMap Value) := ⟨empty⟩

instance : Inhabited (SortedMap Value) := ⟨empty⟩

def get? (map : SortedMap Value) (key : String) : Option Value := map.entries.lookup key

def contains (map : SortedMap Value) (key : String) : Bool := (map.get? key).isSome

def insert (map : SortedMap Value) (key : String) (value : Value) : SortedMap Value :=
  ⟨insertEntry key value map.entries, map.ascending.insertEntry⟩

def erase (map : SortedMap Value) (key : String) : SortedMap Value :=
  ⟨map.entries.filter (fun entry => entry.1 ≠ key), map.ascending.filter _⟩

def filter (map : SortedMap Value) (keep : Value → Bool) : SortedMap Value :=
  ⟨map.entries.filter (fun entry => keep entry.2), map.ascending.filter _⟩

def filterKeys (map : SortedMap Value) (keep : String → Bool) : SortedMap Value :=
  ⟨map.entries.filter (fun entry => keep entry.1), map.ascending.filter _⟩

/-- Binds every entry in turn, so the last binding of a repeated key stays. -/
def ofList (entries : List (String × Value)) : SortedMap Value :=
  entries.foldl (fun map entry => map.insert entry.1 entry.2) empty

def values (map : SortedMap Value) : List Value := map.entries.map Prod.snd

def keys (map : SortedMap Value) : List String := map.entries.map Prod.fst

def size (map : SortedMap Value) : Nat := map.entries.length

def isEmpty (map : SortedMap Value) : Bool := map.entries.isEmpty

theorem mem_of_get? {map : SortedMap Value} {key : String} {value : Value}
    (found : map.get? key = some value) : (key, value) ∈ map.entries :=
  mem_of_lookup found

@[simp] theorem get?_empty (key : String) : (∅ : SortedMap Value).get? key = none := rfl

theorem get?_insert (map : SortedMap Value) (key name : String) (value : Value) :
    (map.insert key value).get? name = if name = key then some value else map.get? name :=
  lookup_insertEntry key name value map.entries

@[simp] theorem get?_insert_self (map : SortedMap Value) (key : String) (value : Value) :
    (map.insert key value).get? key = some value := by
  rw [get?_insert, if_pos rfl]

theorem get?_insert_of_ne (map : SortedMap Value) {key name : String} (different : name ≠ key)
    (value : Value) : (map.insert key value).get? name = map.get? name := by
  rw [get?_insert, if_neg different]

theorem get?_erase (map : SortedMap Value) (key name : String) :
    (map.erase key).get? name = if name = key then none else map.get? name :=
  lookup_filter_ne key name map.entries

end SortedMap

end PrivateComputation
