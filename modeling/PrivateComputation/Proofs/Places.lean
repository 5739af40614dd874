import Mathlib.Tactic.Choose

/-!
Lists that are gathered from nested lists. A place is the path of positions that leads to where an
item comes from; a list is gathered if it holds what arises anywhere, once for each place and in the
order of the places.
-/

namespace PrivateComputation

/-- The items that arise somewhere, one for each place and item, in the order of the places. -/
def Gathered {α : Type} (arises : List Nat → α → Prop) (items : List α) : Prop :=
  ∃ placed : List (List Nat × α), placed.map Prod.snd = items ∧
    placed.Pairwise (fun earlier later => earlier.1 < later.1) ∧
    ∀ place item, (place, item) ∈ placed ↔ arises place item

namespace Gathered

variable {α β : Type} {arises : List Nat → α → Prop} {items : List α}

theorem mem_iff (gathered : Gathered arises items) {item : α} :
    item ∈ items ↔ ∃ place, arises place item := by
  obtain ⟨placed, rfl, -, members⟩ := gathered
  simp [← members]

theorem ne_nil_iff (gathered : Gathered arises items) :
    items ≠ [] ↔ ∃ place item, arises place item := by
  rw [exists_comm]
  simp only [← gathered.mem_iff]
  exact ⟨List.exists_mem_of_ne_nil items, fun ⟨_, member⟩ => List.ne_nil_of_mem member⟩

theorem congr {others : List Nat → α → Prop} (gathered : Gathered arises items)
    (same : ∀ place item, arises place item ↔ others place item) : Gathered others items := by
  obtain ⟨placed, listed, ordered, members⟩ := gathered
  exact ⟨placed, listed, ordered, fun place item => (members place item).trans (same place item)⟩

theorem singleton (place : List Nat) (item : α) :
    Gathered (fun other otherItem => other = place ∧ otherItem = item) [item] :=
  ⟨[(place, item)], rfl, by simp, by simp⟩

theorem guarded (condition : Prop) [Decidable condition] (gathered : Gathered arises items) :
    Gathered (fun place item => condition ∧ arises place item)
      (if condition then items else []) := by
  by_cases holds : condition
  · rw [if_pos holds]
    exact gathered.congr (by simp [holds])
  · rw [if_neg holds]
    exact ⟨[], rfl, .nil, by simp [holds]⟩

theorem flatMap {each : β → List Nat → α → Prop} {gather : β → List α}
    (gathered : ∀ element, Gathered (each element) (gather element)) (elements : List β) :
    Gathered
      (fun place item => ∃ position element rest, place = position :: rest ∧
        elements[position]? = some element ∧ each element rest item)
      (elements.flatMap gather) := by
  choose placed listed ordered members using gathered
  refine ⟨elements.zipIdx.flatMap (fun element =>
    (placed element.1).map (fun entry => (element.2 :: entry.1, entry.2))), ?_, ?_, ?_⟩
  · have each : ∀ element : β × Nat, ((placed element.1).map
        (fun entry => (element.2 :: entry.1, entry.2))).map Prod.snd = gather element.1 := by
      intro element
      rw [List.map_map, ← listed]
      rfl
    simp only [List.map_flatMap, each]
    rw [← List.flatMap_map, List.zipIdx_map_fst]
  · -- Within one element the rest of the place decides, between two elements their positions.
    rw [List.pairwise_flatMap]
    refine ⟨?_, ?_⟩
    · intro element _
      rw [List.pairwise_map]
      exact (ordered element.1).imp (fun below => List.cons_lt_cons_iff.mpr (.inr ⟨rfl, below⟩))
    · have positions : elements.zipIdx.Pairwise (fun one other => one.2 < other.2) := by
        rw [← List.pairwise_map, List.zipIdx_map_snd]
        exact List.pairwise_lt_range'
      refine positions.imp ?_
      intro one other below first inOne second inOther
      obtain ⟨_, -, rfl⟩ := List.mem_map.mp inOne
      obtain ⟨_, -, rfl⟩ := List.mem_map.mp inOther
      exact List.cons_lt_cons_iff.mpr (.inl below)
  · intro place item
    simp only [List.mem_flatMap, List.mem_map, Prod.exists, List.mem_zipIdx_iff_getElem?,
      Prod.mk.injEq, members]
    constructor
    · rintro ⟨element, position, found, rest, _, arose, rfl, rfl⟩
      exact ⟨position, element, rest, rfl, found, arose⟩
    · rintro ⟨position, element, rest, rfl, found, arose⟩
      exact ⟨element, position, found, rest, item, arose, rfl, rfl⟩

theorem append {last : List Nat → α → Prop} {lastItems : List α}
    (gathered : Gathered arises items) (behind : Gathered last lastItems)
    (order : ∀ place item lastPlace lastItem, arises place item → last lastPlace lastItem →
      place < lastPlace) :
    Gathered (fun place item => arises place item ∨ last place item) (items ++ lastItems) := by
  obtain ⟨placed, rfl, ordered, members⟩ := gathered
  obtain ⟨lastPlaced, rfl, lastOrdered, lastMembers⟩ := behind
  refine ⟨placed ++ lastPlaced, List.map_append, ?_, ?_⟩
  · refine List.pairwise_append.mpr ⟨ordered, lastOrdered, ?_⟩
    rintro ⟨place, item⟩ inPlaced ⟨lastPlace, lastItem⟩ inLast
    exact order _ _ _ _ ((members _ _).mp inPlaced) ((lastMembers _ _).mp inLast)
  · intro place item
    rw [List.mem_append, members, lastMembers]

end Gathered

end PrivateComputation
