import PrivateComputation.Config.Merge
import PrivateComputation.Proofs.Json.Equality

/-!
What merged layers of configuration hold at a path of names. The last layer decides that sets the
path or cuts it off, and objects are merged since the last cut.
-/

namespace PrivateComputation

namespace Json

/-! ## Values at paths -/

/-- What a document holds at a path, where nothing counts as null: null is what is not set. -/
def valueAt (json : Json) (path : List String) : Json := (json.at? path).getD .null

def Sets (json : Json) (path : List String) : Prop := json.valueAt path ≠ .null

inductive IsLeaf : Json → Prop
  | bool (value : Bool) : IsLeaf (.bool value)
  | number (value : Number) : IsLeaf (.number value)
  | string (value : String) : IsLeaf (.string value)
  | array (items : List Json) : IsLeaf (.array items)

/-- A leaf stands on the way to a path, before its end. -/
def CutsOff (json : Json) (path : List String) : Prop :=
  ∃ front name back, path = front ++ name :: back ∧ (json.valueAt front).IsLeaf

/-- Nothing is set at a path, nor is it cut off: it is null or missing, or a front part of it is. -/
def LeavesAlone (json : Json) (path : List String) : Prop :=
  ¬json.Sets path ∧ ¬json.CutsOff path

theorem at?_cons (json : Json) (name : String) (path : List String) :
    json.at? (name :: path) = (json.get? name).bind (fun value => value.at? path) := rfl

theorem valueAt_null (path : List String) : valueAt .null path = .null := by
  cases path <;> rfl

theorem valueAt_cons (json : Json) (name : String) (path : List String) :
    json.valueAt (name :: path) = (json.valueAt [name]).valueAt path := by
  have single : json.valueAt [name] = (json.get? name).getD .null := by
    rw [valueAt, at?_cons]
    cases json.get? name <;> rfl
  rw [single, valueAt, at?_cons]
  cases json.get? name with
  | none => exact (valueAt_null path).symm
  | some value => rfl

theorem valueAt_append (json : Json) (front back : List String) :
    json.valueAt (front ++ back) = (json.valueAt front).valueAt back := by
  induction front generalizing json with
  | nil => rfl
  | cons name front ih => rw [List.cons_append, valueAt_cons, ih, ← valueAt_cons]

theorem valueAt_of_object (members : List (String × Json)) (name : String) :
    (Json.object members).valueAt [name] = (members.lookup name).getD .null := by
  rw [valueAt, at?_cons, get?]
  cases members.lookup name <;> rfl

theorem IsLeaf.valueAt_cons {json : Json} (leaf : json.IsLeaf) (name : String)
    (path : List String) : json.valueAt (name :: path) = .null := by
  cases leaf <;> rfl

theorem IsLeaf.ne_null {json : Json} (leaf : json.IsLeaf) : json ≠ .null := by
  rintro rfl
  cases leaf

theorem not_cutsOff_nil (json : Json) : ¬json.CutsOff [] := by
  rintro ⟨front, name, back, shape, -⟩
  cases front <;> cases shape

theorem cutsOff_cons_iff {json : Json} {name : String} {path : List String} :
    json.CutsOff (name :: path) ↔ json.IsLeaf ∨ (json.valueAt [name]).CutsOff path := by
  constructor
  · rintro ⟨front, other, back, shape, leaf⟩
    cases front with
    | nil => exact .inl leaf
    | cons first front =>
        obtain ⟨rfl, rfl⟩ := List.cons.inj shape
        exact .inr ⟨front, other, back, rfl, by rwa [← valueAt_cons]⟩
  · rintro (leaf | ⟨front, other, back, rfl, leaf⟩)
    · exact ⟨[], name, path, rfl, leaf⟩
    · exact ⟨name :: front, other, back, rfl, by rwa [valueAt_cons]⟩

theorem CutsOff.valueAt {json : Json} {path : List String} (cut : json.CutsOff path) :
    json.valueAt path = .null := by
  obtain ⟨front, name, back, rfl, leaf⟩ := cut
  rw [valueAt_append, leaf.valueAt_cons]

theorem leavesAlone_iff {json : Json} {path : List String} :
    json.LeavesAlone path ↔ json.valueAt path = .null ∧ ¬json.CutsOff path := by
  rw [LeavesAlone, Sets, not_not]

/-! ## Merging two documents -/

theorem merge_null_right (base : Json) : merge base .null = base := by rw [merge]

theorem merge_null_left (overlay : Json) : merge .null overlay = overlay := by
  cases overlay <;> simp [merge]

theorem IsLeaf.merge_right {overlay : Json} (leaf : overlay.IsLeaf) (base : Json) :
    merge base overlay = overlay := by
  cases leaf <;> simp [merge]

theorem exists_merge_object (base : Json) (members : List (String × Json)) :
    ∃ merged, merge base (.object members) = .object merged := by
  cases base <;> simp [merge]

theorem merge_eq_null_iff {base overlay : Json} :
    merge base overlay = .null ↔ base = .null ∧ overlay = .null := by
  cases overlay with
  | null => simp [merge]
  | object members => cases base <;> simp [merge]
  | bool | number | string | array => simp [merge]

theorem lookup_tail_of_ascending {name : String} {value : Json} {members : List (String × Json)}
    (ascending : Ascending ((name, value) :: members)) : members.lookup name = none := by
  obtain ⟨below, -⟩ := List.pairwise_cons.mp ascending
  refine List.lookup_eq_none_iff.mpr ?_
  intro member there
  exact bne_iff_ne.mpr (String.ne_of_lt (below member there))

theorem lookup_mergeMembers {overlay : List (String × Json)} (ascending : Ascending overlay)
    (base : List (String × Json)) (name : String) :
    (mergeMembers base overlay).lookup name =
      match overlay.lookup name, base.lookup name with
      | none, bound => bound
      | some value, some bound => some (merge bound value)
      | some value, none => if value.isNull then none else some value := by
  induction overlay generalizing base with
  | nil => rw [mergeMembers]; rfl
  | cons member overlay ih =>
      obtain ⟨key, value⟩ := member
      rw [mergeMembers, ih (List.pairwise_cons.mp ascending).2, lookup_entry]
      by_cases same : name = key
      · subst same
        rw [lookup_tail_of_ascending ascending, if_pos rfl]
        cases found : base.lookup name with
        | some bound => simp [lookup_insertEntry]
        | none => cases empty : value.isNull <;> simp [lookup_insertEntry, found, empty]
      · rw [if_neg same]
        cases found : base.lookup key with
        | some bound => simp [lookup_insertEntry, same]
        | none => cases value.isNull <;> simp [lookup_insertEntry, same]

theorem isNull_iff {json : Json} : json.isNull = true ↔ json = .null := by
  cases json <;> simp [isNull]

theorem valueAt_mergeMembers {overlay : List (String × Json)} (ascending : Ascending overlay)
    (base : List (String × Json)) (name : String) :
    (Json.object (mergeMembers base overlay)).valueAt [name] =
      merge ((Json.object base).valueAt [name]) ((Json.object overlay).valueAt [name]) := by
  rw [valueAt_of_object, valueAt_of_object, valueAt_of_object, lookup_mergeMembers ascending]
  cases overlay.lookup name with
  | none => exact (merge_null_right _).symm
  | some value =>
      cases base.lookup name with
      | some bound => rfl
      | none =>
          simp only [Option.getD_none, Option.getD_some, merge_null_left]
          split
          next empty => rw [isNull_iff.mp empty, Option.getD_none]
          next => rfl

theorem valueAt_merge_name {overlay : Json} (sorted : overlay.Sorted) (branches : ¬overlay.IsLeaf)
    (base : Json) (name : String) :
    (merge base overlay).valueAt [name] = merge (base.valueAt [name]) (overlay.valueAt [name]) := by
  cases sorted with
  | null => rw [merge_null_right, valueAt_null, merge_null_right]
  | object ascending each =>
      cases base with
      | object members => rw [merge, valueAt_mergeMembers ascending]
      | null | bool | number | string | array =>
          -- Nothing is set by name in the base, and the overlay takes its place.
          exact (merge_null_left _).symm
  | bool value => exact absurd (.bool value) branches
  | number value => exact absurd (.number value) branches
  | string value => exact absurd (.string value) branches
  | array each => exact absurd (.array _) branches

theorem sorted_of_lookup {members : List (String × Json)} {name : String} {value : Json}
    (sorted : (Json.object members).Sorted) (found : members.lookup name = some value) :
    value.Sorted := by
  cases sorted with
  | object ascending each => exact each (name, value) (mem_of_lookup found)

theorem Sorted.valueAt {json : Json} (sorted : json.Sorted) (path : List String) :
    (json.valueAt path).Sorted := by
  induction path generalizing json with
  | nil => exact sorted
  | cons name path ih =>
      rw [valueAt_cons]
      refine ih ?_
      cases sorted with
      | @object members ascending each =>
          rw [valueAt_of_object]
          cases found : members.lookup name with
          | none => exact .null
          | some value => exact sorted_of_lookup (.object ascending each) found
      | null | bool | number | string | array => exact .null

/-- What is held at a path after a merge: nothing if the overlay cuts the path off, and otherwise
the merge of what both documents hold there. -/
theorem valueAt_merge {overlay : Json} (sorted : overlay.Sorted) (base : Json)
    (path : List String) :
    (overlay.CutsOff path → (merge base overlay).valueAt path = .null) ∧
      (¬overlay.CutsOff path →
        (merge base overlay).valueAt path = merge (base.valueAt path) (overlay.valueAt path)) := by
  induction path generalizing base overlay with
  | nil => exact ⟨fun cut => absurd cut (not_cutsOff_nil overlay), fun _ => rfl⟩
  | cons name path ih =>
      by_cases leaf : overlay.IsLeaf
      · rw [leaf.merge_right]
        exact ⟨fun cut => cut.valueAt, fun uncut => absurd (cutsOff_cons_iff.mpr (.inl leaf)) uncut⟩
      · rw [cutsOff_cons_iff, or_iff_right leaf, valueAt_cons (merge base overlay) name path,
          valueAt_cons base name path, valueAt_cons overlay name path,
          valueAt_merge_name sorted leaf]
        exact ih (sorted.valueAt [name]) _

theorem LeavesAlone.valueAt_merge {overlay : Json} {path : List String}
    (alone : overlay.LeavesAlone path) (sorted : overlay.Sorted) (base : Json) :
    (merge base overlay).valueAt path = base.valueAt path := by
  obtain ⟨unset, uncut⟩ := leavesAlone_iff.mp alone
  rw [(Json.valueAt_merge sorted base path).2 uncut, unset, merge_null_right]

theorem sets_merge_iff {overlay : Json} (sorted : overlay.Sorted) (base : Json)
    (path : List String) : (merge base overlay).Sets path ↔
      overlay.Sets path ∨ base.Sets path ∧ ¬overlay.CutsOff path := by
  by_cases cut : overlay.CutsOff path
  · rw [Sets, (valueAt_merge sorted base path).1 cut, Sets, cut.valueAt]
    simp [cut]
  · rw [Sets, (valueAt_merge sorted base path).2 cut, Ne, merge_eq_null_iff, Sets, Sets]
    simp only [cut, not_false_eq_true, and_true]
    tauto

/-! ## Merging layers -/

/-- Among layers that go from the lowest to the highest, one above which all leave a path alone. -/
def HasLastWord (layers : List Json) (path : List String) (layer : Json) : Prop :=
  ∃ lower upper, layers = lower ++ layer :: upper ∧ ∀ above ∈ upper, above.LeavesAlone path

/-- Some layer sets a path, and none above it cuts the path off. -/
def SetSinceCut (layers : List Json) (path : List String) : Prop :=
  ∃ lower layer upper, layers = lower ++ layer :: upper ∧ layer.Sets path ∧
    ∀ above ∈ upper, ¬above.CutsOff path

theorem mergeLayers_append (lower : List Json) (layer : Json) (upper : List Json) :
    mergeLayers (lower ++ layer :: upper) =
      upper.foldl merge (merge (mergeLayers lower) layer) := by
  rw [mergeLayers, List.foldl_append, List.foldl_cons, ← mergeLayers]

section Layers

variable {layers : List Json} {path : List String}

theorem valueAt_foldl_of_leavesAlone (sorted : ∀ layer ∈ layers, layer.Sorted)
    (alone : ∀ layer ∈ layers, layer.LeavesAlone path) (base : Json) :
    (layers.foldl merge base).valueAt path = base.valueAt path := by
  induction layers generalizing base with
  | nil => rfl
  | cons layer layers ih =>
      rw [List.forall_mem_cons] at sorted alone
      rw [List.foldl_cons, ih sorted.2 alone.2, alone.1.valueAt_merge sorted.1]

theorem valueAt_foldl_congr (sorted : ∀ layer ∈ layers, layer.Sorted) {base other : Json}
    (same : base.valueAt path = other.valueAt path) :
    (layers.foldl merge base).valueAt path = (layers.foldl merge other).valueAt path := by
  induction layers generalizing base other with
  | nil => exact same
  | cons layer layers ih =>
      rw [List.forall_mem_cons] at sorted
      refine ih sorted.2 ?_
      by_cases cut : layer.CutsOff path
      · rw [(valueAt_merge sorted.1 base path).1 cut, (valueAt_merge sorted.1 other path).1 cut]
      · rw [(valueAt_merge sorted.1 base path).2 cut, (valueAt_merge sorted.1 other path).2 cut,
          same]

theorem setSinceCut_cons_iff {layer : Json} : SetSinceCut (layer :: layers) path ↔
    SetSinceCut layers path ∨ layer.Sets path ∧ ∀ above ∈ layers, ¬above.CutsOff path := by
  constructor
  · rintro ⟨lower, setter, upper, shape, sets, uncut⟩
    cases lower with
    | nil =>
        obtain ⟨rfl, rfl⟩ := List.cons.inj shape
        exact .inr ⟨sets, uncut⟩
    | cons first lower =>
        obtain ⟨rfl, rfl⟩ := List.cons.inj shape
        exact .inl ⟨lower, setter, upper, rfl, sets, uncut⟩
  · rintro (⟨lower, setter, upper, rfl, sets, uncut⟩ | ⟨sets, uncut⟩)
    · exact ⟨layer :: lower, setter, upper, rfl, sets, uncut⟩
    · exact ⟨[], layer, layers, rfl, sets, uncut⟩

theorem sets_foldl_iff (sorted : ∀ layer ∈ layers, layer.Sorted) (base : Json) :
    (layers.foldl merge base).Sets path ↔
      SetSinceCut layers path ∨ base.Sets path ∧ ∀ layer ∈ layers, ¬layer.CutsOff path := by
  -- The base stands for the layers that have been merged before.
  induction layers generalizing base with
  | nil => simp [SetSinceCut]
  | cons layer layers ih =>
      rw [List.forall_mem_cons] at sorted
      rw [List.foldl_cons, ih sorted.2, sets_merge_iff sorted.1, setSinceCut_cons_iff,
        List.forall_mem_cons]
      tauto

theorem sets_mergeLayers_iff (sorted : ∀ layer ∈ layers, layer.Sorted) (front : List String)
    (name : String) : (mergeLayers layers).Sets (front ++ [name]) ↔
      SetSinceCut layers (front ++ [name]) := by
  have unset : ¬(Json.object []).Sets (front ++ [name]) := by
    rw [Sets, not_not]
    cases front with
    | nil => rfl
    | cons first front => rw [List.cons_append, valueAt_cons]; exact valueAt_null _
  rw [mergeLayers, sets_foldl_iff sorted]
  exact or_iff_left (fun set => unset set.1)

theorem HasLastWord.sorted {layer : Json} (last : HasLastWord layers path layer)
    (sorted : ∀ layer ∈ layers, layer.Sorted) : layer.Sorted := by
  obtain ⟨lower, upper, rfl, -⟩ := last
  exact sorted layer (List.mem_append_right lower List.mem_cons_self)

theorem HasLastWord.valueAt_mergeLayers {layer : Json} (last : HasLastWord layers path layer)
    (sorted : ∀ layer ∈ layers, layer.Sorted) :
    ∃ base, (mergeLayers layers).valueAt path = (merge base layer).valueAt path := by
  obtain ⟨lower, upper, rfl, alone⟩ := last
  refine ⟨mergeLayers lower, ?_⟩
  rw [mergeLayers_append]
  refine valueAt_foldl_of_leavesAlone ?_ alone _
  intro above there
  exact sorted above (List.mem_append_right _ (List.mem_cons_of_mem _ there))

theorem valueAt_mergeLayers_of_leavesAlone {lower upper : List Json} {layer : Json}
    (sorted : ∀ other ∈ lower ++ layer :: upper, other.Sorted) (alone : layer.LeavesAlone path) :
    (mergeLayers (lower ++ layer :: upper)).valueAt path =
      (mergeLayers (lower ++ upper)).valueAt path := by
  obtain ⟨-, sorted⟩ := List.forall_mem_append.mp sorted
  obtain ⟨here, above⟩ := List.forall_mem_cons.mp sorted
  rw [mergeLayers_append, mergeLayers, mergeLayers, List.foldl_append]
  exact valueAt_foldl_congr above (alone.valueAt_merge here _)

end Layers

end Json

/-- Layers of configuration decide path by path. If all layers above one leave a path alone, a leaf
that this one holds at the path is what the merged document holds there, a leaf that it holds before
the end of the path leaves nothing set there, and an object that it holds there becomes an object in
which all names are set that have been set there since the path was last cut off. A layer that
leaves the path alone makes no difference to it, and if all do, nothing but the empty document is
there. -/
theorem layers_decide (documents : List SortedJson) (path : List String) :
    let layers := documents.map SortedJson.json
    (∀ layer, Json.HasLastWord layers path layer →
      ((layer.valueAt path).IsLeaf →
        (Json.mergeLayers layers).valueAt path = layer.valueAt path) ∧
      (layer.CutsOff path → ¬(Json.mergeLayers layers).Sets path) ∧
      ∀ members, layer.valueAt path = .object members →
        ∃ merged, (Json.mergeLayers layers).valueAt path = .object merged ∧
          ∀ name, (Json.object merged).Sets [name] ↔
            Json.SetSinceCut layers (path ++ [name])) ∧
    (∀ lower layer upper, layers = lower ++ layer :: upper → layer.LeavesAlone path →
      (Json.mergeLayers layers).valueAt path =
        (Json.mergeLayers (lower ++ upper)).valueAt path) ∧
    ((∀ layer ∈ layers, layer.LeavesAlone path) →
      (Json.mergeLayers layers).valueAt path = (Json.object []).valueAt path) := by
  intro layers
  have sorted : ∀ layer ∈ layers, layer.Sorted :=
    List.forall_mem_map.mpr (fun document _ => document.sorted)
  clear_value layers
  refine ⟨fun layer last => ?_, ?_, fun alone => Json.valueAt_foldl_of_leavesAlone sorted alone _⟩
  · obtain ⟨base, shape⟩ := last.valueAt_mergeLayers sorted
    obtain ⟨whenCut, whenUncut⟩ := Json.valueAt_merge (last.sorted sorted) base path
    refine ⟨fun leaf => ?_, fun cut => ?_, fun members found => ?_⟩
    · rw [shape, whenUncut (fun cut => leaf.ne_null cut.valueAt), leaf.merge_right]
    · rw [Json.Sets, not_not, shape, whenCut cut]
    · have uncut : ¬layer.CutsOff path := fun cut => nomatch found.symm.trans cut.valueAt
      obtain ⟨merged, object⟩ := Json.exists_merge_object (base.valueAt path) members
      have held : (Json.mergeLayers layers).valueAt path = .object merged := by
        rw [shape, whenUncut uncut, found, object]
      refine ⟨merged, held, fun name => ?_⟩
      rw [← Json.sets_mergeLayers_iff sorted, Json.Sets, Json.Sets, Json.valueAt_append, held]
  · rintro lower layer upper rfl alone
    exact Json.valueAt_mergeLayers_of_leavesAlone sorted alone

def SortedJson.runnerTable : SortedJson :=
  .object (.ofList
    [("owdl", .object (.ofList [("poll", .ofNat 5), ("runner", .null)])), ("role", .null)])

/-- An object, a text in its place, an object in place of the text, and nothing that is set. -/
def SortedJson.layerSample : List SortedJson :=
  [.object (.ofList
      [("owdl", .object (.ofList [("runner", .string "one")])), ("role", .string "partner")]),
    .object (.ofList [("owdl", .string "none")]), .runnerTable, .object (.ofList [("owdl", .null)])]

theorem layers_decide_of_sample :
    let layers := SortedJson.layerSample.map SortedJson.json
    Json.HasLastWord layers ["owdl"] SortedJson.runnerTable.json ∧
      ∃ merged, (Json.mergeLayers layers).valueAt ["owdl"] = .object merged ∧
        ∀ name, (Json.object merged).Sets [name] ↔ Json.SetSinceCut layers ["owdl", name] := by
  intro layers
  have alone : ∀ above ∈ [Json.object [("owdl", .null)]], above.LeavesAlone ["owdl"] := by
    rw [List.forall_mem_singleton, Json.leavesAlone_iff, Json.cutsOff_cons_iff]
    exact ⟨rfl, not_or.mpr ⟨nofun, Json.not_cutsOff_nil _⟩⟩
  have last : Json.HasLastWord layers ["owdl"] SortedJson.runnerTable.json :=
    ⟨layers.take 2, _, rfl, alone⟩
  obtain ⟨decides, -, -⟩ := layers_decide SortedJson.layerSample ["owdl"]
  exact ⟨last, (decides _ last).2.2 _ rfl⟩

end PrivateComputation
