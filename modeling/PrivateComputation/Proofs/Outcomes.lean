import Mathlib.Data.List.Forall2

/-!
Computations that may fail, one after the other: what has come to a value, and what came before the
first fault.
-/

namespace PrivateComputation

variable {ε α β : Type}

theorem exists_of_bind_eq_ok {attempt : Except ε α} {next : α → Except ε β} {result : β}
    (came : (attempt >>= next) = .ok result) :
    ∃ value, attempt = .ok value ∧ next value = .ok result := by
  cases attempt with
  | error fault => cases came
  | ok value => exact ⟨value, rfl, came⟩

def FailsFirst (attempt : α → Except ε β) (items : List α) (fault : ε) : Prop :=
  ∃ earlier item later, items = earlier ++ item :: later ∧
    (∀ other ∈ earlier, ∃ value, attempt other = .ok value) ∧ attempt item = .error fault

theorem failsFirst_cons_of_error {attempt : α → Except ε β} {item : α} {items : List α}
    {fault other : ε} (fails : attempt item = .error fault) :
    FailsFirst attempt (item :: items) other ↔ fault = other := by
  constructor
  · rintro ⟨earlier, first, later, split, fine, first_fails⟩
    cases earlier with
    | nil =>
        obtain ⟨rfl, -⟩ := List.cons.inj split
        exact Except.error.inj (fails.symm.trans first_fails)
    | cons head tail =>
        obtain ⟨rfl, -⟩ := List.cons.inj split
        obtain ⟨value, came⟩ := fine item List.mem_cons_self
        cases fails.symm.trans came
  · rintro rfl
    exact ⟨[], item, items, rfl, by simp, fails⟩

theorem failsFirst_cons_of_ok {attempt : α → Except ε β} {item : α} {items : List α} {value : β}
    {fault : ε} (came : attempt item = .ok value) :
    FailsFirst attempt (item :: items) fault ↔ FailsFirst attempt items fault := by
  constructor
  · rintro ⟨earlier, first, later, split, fine, first_fails⟩
    cases earlier with
    | nil =>
        obtain ⟨rfl, -⟩ := List.cons.inj split
        cases came.symm.trans first_fails
    | cons head tail =>
        obtain ⟨rfl, rfl⟩ := List.cons.inj split
        exact ⟨tail, first, later, rfl, (List.forall_mem_cons.mp fine).2, first_fails⟩
  · rintro ⟨earlier, first, later, rfl, fine, first_fails⟩
    exact ⟨item :: earlier, first, later, rfl,
      List.forall_mem_cons.mpr ⟨⟨value, came⟩, fine⟩, first_fails⟩

theorem exists_partner {lefts : List α} {rights : List β} {related : α → β → Prop}
    (all : List.Forall₂ related lefts rights) {left : α} (member : left ∈ lefts) :
    ∃ right ∈ rights, related left right := by
  induction all with
  | nil => cases member
  | @cons head partner lefts rights first rest ih =>
      rcases List.mem_cons.mp member with rfl | later
      · exact ⟨partner, List.mem_cons_self, first⟩
      · obtain ⟨right, there, paired⟩ := ih later
        exact ⟨right, List.mem_cons_of_mem _ there, paired⟩

theorem mapM_congr {one other : α → Except ε β} {items : List α}
    (same : ∀ item ∈ items, one item = other item) : items.mapM one = items.mapM other := by
  induction items with
  | nil => rfl
  | cons item rest ih =>
      obtain ⟨first, others⟩ := List.forall_mem_cons.mp same
      rw [List.mapM_cons, List.mapM_cons, first, ih others]

theorem mapM_eq_ok_iff {attempt : α → Except ε β} {items : List α} {values : List β} :
    items.mapM attempt = .ok values ↔
      List.Forall₂ (fun item value => attempt item = .ok value) items values := by
  induction items generalizing values with
  | nil => cases values <;> simp [pure, Except.pure]
  | cons item rest ih =>
      rw [List.mapM_cons]
      constructor
      · intro came
        obtain ⟨value, first, others⟩ := exists_of_bind_eq_ok came
        obtain ⟨later, mapped, done⟩ := exists_of_bind_eq_ok others
        cases done
        exact .cons first (ih.mp mapped)
      · rintro (_ | ⟨first, others⟩)
        rw [first, ih.mpr others]
        rfl

theorem mapM_eq_error_iff {attempt : α → Except ε β} {items : List α} {fault : ε} :
    items.mapM attempt = .error fault ↔ FailsFirst attempt items fault := by
  induction items with
  | nil => simp [FailsFirst, pure, Except.pure]
  | cons item rest ih =>
      rw [List.mapM_cons]
      cases first : attempt item with
      | error other =>
          rw [failsFirst_cons_of_error first]
          exact ⟨Except.error.inj, congrArg Except.error⟩
      | ok value =>
          rw [failsFirst_cons_of_ok first, ← ih]
          cases rest.mapM attempt with
          | error other => exact Iff.rfl
          | ok values => exact iff_of_false nofun nofun

end PrivateComputation
