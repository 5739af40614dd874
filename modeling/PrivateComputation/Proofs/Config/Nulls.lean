import PrivateComputation.Proofs.Config.Merge

/-!
Null members of an overlay. They are passed over in an object that the base holds as well, but an
object that the base does not hold is taken over with the null members that it has.
-/

namespace PrivateComputation

namespace Json

mutual

/-- A document without its null members, at every depth outside arrays. -/
def withoutNulls : Json → Json
  | .object members => .object (membersWithoutNulls members)
  | json => json

def membersWithoutNulls : List (String × Json) → List (String × Json)
  | [] => []
  | (name, value) :: members =>
      if value.isNull then membersWithoutNulls members
      else (name, value.withoutNulls) :: membersWithoutNulls members

end

def HoldsObject (json : Json) (path : List String) : Prop :=
  ∃ members, json.at? path = some (.object members)

/-- The object at a path has a null member of that name. -/
def HoldsNull (json : Json) (path : List String) (name : String) : Prop :=
  json.at? (path ++ [name]) = some .null

/-! ## Steps along a path -/

theorem at?_append (json : Json) (front back : List String) :
    json.at? (front ++ back) = (json.at? front).bind (fun value => value.at? back) := by
  induction front generalizing json with
  | nil => rfl
  | cons name front ih =>
      rw [List.cons_append, at?_cons, at?_cons, Option.bind_assoc]
      exact congrArg _ (funext ih)

theorem at?_single (json : Json) (name : String) : json.at? [name] = json.get? name := by
  rw [at?_cons]
  cases json.get? name <;> rfl

theorem holdsObject_cons_iff {json : Json} {name : String} {path : List String} :
    json.HoldsObject (name :: path) ↔
      ∃ value, json.get? name = some value ∧ value.HoldsObject path := by
  simp only [HoldsObject, at?_cons, Option.bind_eq_some_iff]
  exact ⟨fun ⟨members, value, found, there⟩ => ⟨value, found, members, there⟩,
    fun ⟨value, found, members, there⟩ => ⟨members, value, found, there⟩⟩

theorem holdsNull_cons_iff {json : Json} {first : String} {path : List String} {name : String} :
    json.HoldsNull (first :: path) name ↔
      ∃ value, json.get? first = some value ∧ value.HoldsNull path name := by
  rw [HoldsNull, List.cons_append, at?_cons, Option.bind_eq_some_iff]
  rfl

theorem HoldsNull.holdsObject {json : Json} {path : List String} {name : String}
    (null : json.HoldsNull path name) : json.HoldsObject path := by
  rw [HoldsNull, at?_append, Option.bind_eq_some_iff] at null
  obtain ⟨value, found, null⟩ := null
  rw [at?_single] at null
  cases value with
  | object members => exact ⟨members, found⟩
  | _ => cases null

/-! ## Documents without null members -/

theorem isNull_withoutNulls (json : Json) : json.withoutNulls.isNull = json.isNull := by
  cases json <;> simp [withoutNulls, isNull]

theorem mem_membersWithoutNulls {members : List (String × Json)} {name : String} {kept : Json}
    (there : (name, kept) ∈ membersWithoutNulls members) :
    ∃ value, (name, value) ∈ members ∧ value.isNull = false ∧ kept = value.withoutNulls := by
  induction members with
  | nil => rw [membersWithoutNulls] at there; cases there
  | cons member members ih =>
      obtain ⟨other, value⟩ := member
      rw [membersWithoutNulls] at there
      split at there
      · obtain ⟨value, found, rest⟩ := ih there
        exact ⟨value, List.mem_cons_of_mem _ found, rest⟩
      next solid =>
        rcases List.mem_cons.mp there with same | later
        · cases same
          exact ⟨value, List.mem_cons_self, Bool.not_eq_true _ ▸ solid, rfl⟩
        · obtain ⟨value, found, rest⟩ := ih later
          exact ⟨value, List.mem_cons_of_mem _ found, rest⟩

theorem ascending_membersWithoutNulls {members : List (String × Json)}
    (ascending : Ascending members) : Ascending (membersWithoutNulls members) := by
  induction members with
  | nil => rw [membersWithoutNulls]; exact List.Pairwise.nil
  | cons member members ih =>
      obtain ⟨name, value⟩ := member
      obtain ⟨below, tail⟩ := List.pairwise_cons.mp ascending
      rw [membersWithoutNulls]
      split
      · exact ih tail
      · refine List.pairwise_cons.mpr ⟨?_, ih tail⟩
        rintro ⟨other, kept⟩ there
        obtain ⟨value, found, -⟩ := mem_membersWithoutNulls there
        exact below (other, value) found

theorem Sorted.withoutNulls {json : Json} (sorted : json.Sorted) : json.withoutNulls.Sorted := by
  induction sorted with
  | null => exact .null
  | bool value => exact .bool value
  | number value => exact .number value
  | string value => exact .string value
  | array each => exact .array each
  | object ascending each ih =>
      refine .object (ascending_membersWithoutNulls ascending) ?_
      rintro ⟨name, kept⟩ there
      obtain ⟨value, found, -, rfl⟩ := mem_membersWithoutNulls there
      exact ih (name, value) found

theorem lookup_membersWithoutNulls {members : List (String × Json)}
    (ascending : Ascending members) (name : String) :
    (membersWithoutNulls members).lookup name =
      (members.lookup name).bind
        (fun value => if value.isNull then none else some value.withoutNulls) := by
  induction members with
  | nil => rw [membersWithoutNulls]; rfl
  | cons member members ih =>
      obtain ⟨other, value⟩ := member
      have rest := ih (List.pairwise_cons.mp ascending).2
      rw [membersWithoutNulls, lookup_entry]
      by_cases same : name = other
      · subst same
        rw [lookup_tail_of_ascending ascending, Option.bind_none] at rest
        cases empty : value.isNull
        · simp [empty]
        · simp [empty, rest]
      · cases value.isNull <;> simp [lookup_entry, rest, same]

theorem exists_of_get?_withoutNulls {json : Json} {name : String} {kept : Json}
    (found : json.withoutNulls.get? name = some kept) :
    ∃ value : Json, value.isNull = false ∧ kept = value.withoutNulls := by
  cases json with
  | object members =>
      rw [Json.withoutNulls, get?] at found
      obtain ⟨value, -, solid, same⟩ := mem_membersWithoutNulls (mem_of_lookup found)
      exact ⟨value, solid, same⟩
  | _ => cases found

theorem not_holdsNull_withoutNulls (json : Json) (path : List String) (name : String) :
    ¬json.withoutNulls.HoldsNull path name := by
  intro null
  induction path generalizing json with
  | nil =>
      rw [HoldsNull, List.nil_append, at?_single] at null
      obtain ⟨value, solid, same⟩ := exists_of_get?_withoutNulls null
      rw [← isNull_withoutNulls, ← same] at solid
      cases solid
  | cons first path ih =>
      obtain ⟨kept, found, null⟩ := holdsNull_cons_iff.mp null
      obtain ⟨value, -, rfl⟩ := exists_of_get?_withoutNulls found
      exact ih value null

theorem membersWithoutNulls_eq_self {members : List (String × Json)}
    (solid : ∀ member ∈ members, member.2.isNull = false ∧ member.2.withoutNulls = member.2) :
    membersWithoutNulls members = members := by
  induction members with
  | nil => rw [membersWithoutNulls]
  | cons member members ih =>
      obtain ⟨name, value⟩ := member
      obtain ⟨⟨here, same⟩, rest⟩ := List.forall_mem_cons.mp solid
      rw [membersWithoutNulls, if_neg (by simp [here]), ih rest]
      exact congrArg (fun kept => (name, kept) :: members) same

theorem Sorted.withoutNulls_eq_self {json : Json} (sorted : json.Sorted)
    (free : ∀ path name, ¬json.HoldsNull path name) : json.withoutNulls = json := by
  induction sorted with
  | @object members ascending each ih =>
      rw [Json.withoutNulls]
      refine congrArg Json.object (membersWithoutNulls_eq_self ?_)
      rintro ⟨name, value⟩ there
      have found : (Json.object members).get? name = some value :=
        SortedMap.lookup_of_mem ascending there
      constructor
      · refine Bool.eq_false_iff.mpr (fun null => free [] name ?_)
        obtain rfl : value = .null := isNull_iff.mp null
        rw [HoldsNull, List.nil_append, at?_single, found]
      · refine ih (name, value) there ?_
        intro path inner null
        exact free (name :: path) inner (holdsNull_cons_iff.mpr ⟨value, found, null⟩)
  | null | bool | number | string | array => rw [Json.withoutNulls]; rintro _ ⟨⟩

theorem Sorted.withoutNulls_withoutNulls {json : Json} (sorted : json.Sorted) :
    json.withoutNulls.withoutNulls = json.withoutNulls :=
  sorted.withoutNulls.withoutNulls_eq_self (not_holdsNull_withoutNulls json)

/-! ## Null members of a merge -/

theorem ascending_mergeMembers {base : List (String × Json)} (ascending : Ascending base)
    (overlay : List (String × Json)) : Ascending (mergeMembers base overlay) := by
  induction overlay generalizing base with
  | nil => rw [mergeMembers]; exact ascending
  | cons member overlay ih =>
      obtain ⟨name, value⟩ := member
      rw [mergeMembers]
      refine ih ?_
      split
      · exact ascending.insertEntry
      · split
        · exact ascending
        · exact ascending.insertEntry

theorem object_ext {left right : List (String × Json)} (leftAscending : Ascending left)
    (rightAscending : Ascending right) (same : ∀ name, left.lookup name = right.lookup name) :
    Json.object left = .object right :=
  congrArg (fun map => Json.object (SortedMap.entries map))
    (@SortedMap.ext_get? _ ⟨left, leftAscending⟩ ⟨right, rightAscending⟩ same)

theorem get?_merge {members : List (String × Json)} (ascending : Ascending members)
    (older : List (String × Json)) (name : String) :
    (merge (.object older) (.object members)).get? name =
      match members.lookup name, older.lookup name with
      | none, bound => bound
      | some value, some bound => some (merge bound value)
      | some value, none => if value.isNull then none else some value := by
  rw [merge, get?]
  exact lookup_mergeMembers ascending older name

theorem HoldsObject.isNull {json : Json} {path : List String} (held : json.HoldsObject path) :
    json.isNull = false := by
  cases json with
  | null => cases path <;> obtain ⟨members, ⟨⟩⟩ := held
  | _ => rfl

theorem at?_merge_of_new {overlay : Json} (sorted : overlay.Sorted) {base : Json}
    {path : List String} (held : overlay.HoldsObject path) (new : ¬base.HoldsObject path) :
    (merge base overlay).at? path = overlay.at? path := by
  induction path generalizing base overlay with
  | nil =>
      obtain ⟨members, ⟨⟩⟩ := held
      cases base with
      | object older => exact absurd ⟨older, rfl⟩ new
      | _ => rfl
  | cons name path ih =>
      obtain ⟨value, found, inner⟩ := holdsObject_cons_iff.mp held
      cases sorted with
      | @object members ascending each =>
          cases base with
          | object older =>
              have bound : members.lookup name = some value := found
              rw [at?_cons, at?_cons, get?_merge ascending, bound, found]
              cases before : older.lookup name with
              | some inside =>
                  refine ih (sorted_of_lookup (.object ascending each) bound) inner ?_
                  exact fun holds => new (holdsObject_cons_iff.mpr ⟨inside, before, holds⟩)
              | none => simp only [inner.isNull, Bool.false_eq_true, if_false]
          | _ => rfl
      | _ => cases found

theorem get?_merge_cases {overlay : Json} (sorted : overlay.Sorted) {base : Json} {name : String}
    {merged : Json} (found : (merge base overlay).get? name = some merged) :
    base.get? name = some merged ∨
      (overlay.get? name = some merged ∧ base.get? name = none ∧
        (merged = .null → ¬base.HoldsObject [])) ∨
      ∃ bound value, base.get? name = some bound ∧ overlay.get? name = some value ∧
        value.Sorted ∧ merged = merge bound value := by
  cases sorted with
  | @object members ascending each =>
      cases base with
      | object older =>
          rw [get?_merge ascending] at found
          cases given : members.lookup name with
          | none =>
              rw [given] at found
              exact .inl found
          | some value =>
              rw [given] at found
              cases before : older.lookup name with
              | some bound =>
                  rw [before] at found
                  exact .inr (.inr ⟨bound, value, before, given,
                    sorted_of_lookup (.object ascending each) given, (Option.some.inj found).symm⟩)
              | none =>
                  simp only [before] at found
                  split at found
                  · cases found
                  next solid =>
                    cases found
                    refine .inr (.inl ⟨given, before, fun null => ?_⟩)
                    exact absurd (isNull_iff.mpr null) solid
      | _ => exact .inr (.inl ⟨found, rfl, fun _ ⟨_, other⟩ => nomatch other⟩)
  | null => exact .inl (merge_null_right base ▸ found)
  | _ => cases found

/-- A null member of a merge has been one of the base, or one of an object of the overlay that the
base does not hold. -/
theorem HoldsNull.of_merge {overlay : Json} (sorted : overlay.Sorted) {base : Json}
    {path : List String} {name : String} (null : (merge base overlay).HoldsNull path name) :
    base.HoldsNull path name ∨ overlay.HoldsNull path name ∧ ¬base.HoldsObject path := by
  -- Down the path, for as long as both documents have a member there; below a member that only one
  -- of them has, the merge is that document.
  induction path generalizing base overlay with
  | nil =>
      simp only [HoldsNull, List.nil_append, at?_single] at null ⊢
      rcases get?_merge_cases sorted null with
        kept | ⟨taken, -, new⟩ | ⟨bound, value, before, -, -, merged⟩
      · exact .inl kept
      · exact .inr ⟨taken, new rfl⟩
      · rw [(merge_eq_null_iff.mp merged.symm).1] at before
        exact .inl before
  | cons first path ih =>
      obtain ⟨merged, found, null⟩ := holdsNull_cons_iff.mp null
      simp only [holdsNull_cons_iff, holdsObject_cons_iff]
      rcases get?_merge_cases sorted found with
        kept | ⟨taken, absent, -⟩ | ⟨bound, value, before, given, valueSorted, rfl⟩
      · exact .inl ⟨merged, kept, null⟩
      · refine .inr ⟨⟨merged, taken, null⟩, ?_⟩
        rintro ⟨value, present, -⟩
        cases absent.symm.trans present
      · rcases ih valueSorted null with old | ⟨new, unmet⟩
        · exact .inl ⟨bound, before, old⟩
        · refine .inr ⟨⟨value, given, new⟩, ?_⟩
          rintro ⟨other, present, holds⟩
          cases before.symm.trans present
          exact unmet holds

theorem HoldsNull.merge_of_new {overlay : Json} (sorted : overlay.Sorted) {base : Json}
    {path : List String} {name : String} (null : overlay.HoldsNull path name)
    (new : ¬base.HoldsObject path) : (merge base overlay).HoldsNull path name := by
  rw [HoldsNull, at?_append] at null ⊢
  rw [at?_merge_of_new sorted (HoldsNull.holdsObject (by rwa [HoldsNull, at?_append])) new, null]

/-! ## When null members make no difference -/

theorem isNull_merge (base overlay : Json) :
    (merge base overlay).isNull = (base.isNull && overlay.isNull) := by
  rw [Bool.eq_iff_iff, Bool.and_eq_true, isNull_iff, isNull_iff, isNull_iff, merge_eq_null_iff]

section Members

variable {older members : List (String × Json)} {name : String}

theorem lookup_mergeMembers_withoutNulls (ascending : Ascending members)
    (taken : ∀ value, members.lookup name = some value → older.lookup name = none →
      value.withoutNulls = value)
    (merged : ∀ value bound, members.lookup name = some value → older.lookup name = some bound →
      merge bound value.withoutNulls = merge bound value) :
    (mergeMembers older (membersWithoutNulls members)).lookup name =
      (mergeMembers older members).lookup name := by
  rw [lookup_mergeMembers (ascending_membersWithoutNulls ascending),
    lookup_mergeMembers ascending, lookup_membersWithoutNulls ascending]
  cases given : members.lookup name with
  | none => rfl
  | some value =>
      cases before : older.lookup name with
      | none =>
          have same := taken value given before
          cases empty : value.isNull <;> simp [empty, same]
      | some bound =>
          have same := merged value bound given before
          cases empty : value.isNull with
          | false => simp [empty, same]
          | true =>
              obtain rfl : value = .null := isNull_iff.mp empty
              simp [isNull, merge_null_right]

theorem lookup_membersWithoutNulls_merge (ascending : Ascending members)
    (olderAscending : Ascending older)
    (merged : ∀ value bound, members.lookup name = some value → older.lookup name = some bound →
      (merge bound value).withoutNulls = merge bound.withoutNulls value.withoutNulls) :
    (membersWithoutNulls (mergeMembers older members)).lookup name =
      (mergeMembers (membersWithoutNulls older) (membersWithoutNulls members)).lookup name := by
  rw [lookup_membersWithoutNulls (ascending_mergeMembers olderAscending _),
    lookup_mergeMembers ascending,
    lookup_mergeMembers (ascending_membersWithoutNulls ascending),
    lookup_membersWithoutNulls ascending, lookup_membersWithoutNulls olderAscending]
  cases given : members.lookup name with
  | none => rfl
  | some value =>
      cases before : older.lookup name with
      | none => cases empty : value.isNull <;> simp [empty, isNull_withoutNulls]
      | some bound =>
          have same := merged value bound given before
          cases empty : value.isNull with
          | true =>
              obtain rfl : value = .null := isNull_iff.mp empty
              simp [isNull, merge_null_right]
          | false =>
              cases vacant : bound.isNull with
              | false => simp [empty, vacant, isNull_merge, same]
              | true =>
                  obtain rfl : bound = .null := isNull_iff.mp vacant
                  simp [empty, vacant, merge_null_left, isNull_withoutNulls]

end Members

theorem merge_withoutNulls {overlay : Json} (overlaySorted : overlay.Sorted) {base : Json}
    (sorted : base.Sorted)
    (met : ∀ path name, overlay.HoldsNull path name → base.HoldsObject path) :
    merge base overlay.withoutNulls = merge base overlay := by
  induction overlaySorted generalizing base with
  | null | bool | number | string | array => rw [Json.withoutNulls]; rintro _ ⟨⟩
  | @object members ascending each ih =>
      cases sorted with
      | @object older olderAscending olderEach =>
          -- What is known of the null members of the overlay, for those within one of its members.
          have inside : ∀ name value, members.lookup name = some value →
              ∀ path inner, value.HoldsNull path inner →
                ∃ bound, older.lookup name = some bound ∧ bound.HoldsObject path := by
            intro name value given path inner null
            exact holdsObject_cons_iff.mp
              (met (name :: path) inner (holdsNull_cons_iff.mpr ⟨value, given, null⟩))
          rw [Json.withoutNulls, merge, merge]
          refine object_ext (ascending_mergeMembers olderAscending _)
            (ascending_mergeMembers olderAscending _)
            (fun name => lookup_mergeMembers_withoutNulls ascending ?_ ?_)
          · intro value given absent
            refine (sorted_of_lookup (.object ascending each) given).withoutNulls_eq_self ?_
            intro path inner null
            obtain ⟨bound, found, -⟩ := inside name value given path inner null
            cases absent.symm.trans found
          · intro value bound given before
            refine ih (name, value) (mem_of_lookup given)
              (sorted_of_lookup (.object olderAscending olderEach) before) ?_
            intro path inner null
            obtain ⟨other, found, holds⟩ := inside name value given path inner null
            cases before.symm.trans found
            exact holds
      | _ =>
          -- The base holds no object, so the overlay has no null member.
          rw [(Sorted.object ascending each).withoutNulls_eq_self]
          intro path name null
          obtain ⟨inner, held⟩ := met path name null
          cases path <;> cases held

theorem withoutNulls_merge {overlay : Json} (overlaySorted : overlay.Sorted) {base : Json}
    (sorted : base.Sorted) :
    (merge base overlay).withoutNulls = merge base.withoutNulls overlay.withoutNulls := by
  induction overlaySorted generalizing base with
  | null => rw [merge_null_right]; exact (merge_null_right _).symm
  | bool | number | string | array => rfl
  | @object members ascending each ih =>
      cases sorted with
      | @object older olderAscending olderEach =>
          simp only [merge, Json.withoutNulls]
          refine object_ext
            (ascending_membersWithoutNulls (ascending_mergeMembers olderAscending _))
            (ascending_mergeMembers (ascending_membersWithoutNulls olderAscending) _)
            (fun name => lookup_membersWithoutNulls_merge ascending olderAscending ?_)
          intro value bound given before
          exact ih (name, value) (mem_of_lookup given)
            (sorted_of_lookup (.object olderAscending olderEach) before)
      | _ => simp only [merge, Json.withoutNulls]

end Json

/-- Removing the null members of an overlay makes no difference to a merge if and only if each of
them is a member of an object that the base holds as well. Where it makes a difference, it is one of
null members only, and they come from objects of the overlay that the base does not hold. -/
theorem nulls_of_overlay (base overlay : SortedJson) :
    (Json.merge base.json overlay.json = Json.merge base.json overlay.json.withoutNulls ↔
      ∀ path name, overlay.json.HoldsNull path name → base.json.HoldsObject path) ∧
    (Json.merge base.json overlay.json).withoutNulls =
      (Json.merge base.json overlay.json.withoutNulls).withoutNulls ∧
    ∀ path name, (Json.merge base.json overlay.json).HoldsNull path name →
      base.json.HoldsNull path name ∨
        overlay.json.HoldsNull path name ∧ ¬base.json.HoldsObject path := by
  obtain ⟨base, baseSorted⟩ := base
  obtain ⟨overlay, overlaySorted⟩ := overlay
  refine ⟨⟨?_, fun met => (Json.merge_withoutNulls overlaySorted baseSorted met).symm⟩, ?_,
    fun path name null => null.of_merge overlaySorted⟩
  · intro same path name null
    by_contra new
    have there := null.merge_of_new overlaySorted new
    rw [same] at there
    rcases there.of_merge overlaySorted.withoutNulls with old | ⟨left, -⟩
    · exact new old.holdsObject
    · exact Json.not_holdsNull_withoutNulls overlay path name left
  · rw [Json.withoutNulls_merge overlaySorted baseSorted,
      Json.withoutNulls_merge overlaySorted.withoutNulls baseSorted,
      overlaySorted.withoutNulls_withoutNulls]

def SortedJson.unsetOptions : SortedJson :=
  .object (.ofList [("region", .null), ("role", .null)])

theorem Json.holdsNull_unsetOptions {path : List String} {name : String}
    (null : SortedJson.unsetOptions.json.HoldsNull path name) : path = [] := by
  cases path with
  | nil => rfl
  | cons first path =>
      obtain ⟨value, found, inner⟩ := holdsNull_cons_iff.mp null
      have vacant : value = .null := by
        change List.lookup first [("region", Json.null), ("role", .null)] = some value at found
        rw [lookup_entry, lookup_entry] at found
        split at found
        · exact (Option.some.inj found).symm
        · split at found
          · exact (Option.some.inj found).symm
          · cases found
      have solid := inner.holdsObject.isNull
      rw [vacant] at solid
      cases solid

/-- Over a configuration that is an object, options that are not given are passed over. -/
theorem nulls_of_overlay_of_unset :
    let base := SortedJson.object (.ofList [("role", .string "partner")])
    let unset := SortedJson.unsetOptions.json
    Json.merge base.json unset = Json.merge base.json unset.withoutNulls := by
  intro base unset
  refine (nulls_of_overlay base .unsetOptions).1.mpr ?_
  intro path name null
  rw [Json.holdsNull_unsetOptions null]
  exact ⟨_, rfl⟩

/-- Over an empty base, a table is taken over with an entry that is not given. -/
theorem null_taken_over :
    let overlay := Json.object [("owdl", .object [("runner", .null)])]
    Json.merge (.object []) overlay ≠ Json.merge (.object []) overlay.withoutNulls ∧
      (Json.merge (.object []) overlay).HoldsNull ["owdl"] "runner" := by
  intro overlay
  refine ⟨fun same => ?_, rfl⟩
  have kept : (Json.merge (.object []) overlay.withoutNulls).at? ["owdl", "runner"] =
      some .null := same ▸ rfl
  cases kept

end PrivateComputation
