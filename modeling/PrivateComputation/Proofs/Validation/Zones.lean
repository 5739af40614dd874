import PrivateComputation.Proofs.SortedMap
import PrivateComputation.Proofs.Validation.Questions

/-!
The zones that the subnets of an environment are in, against the zones of the region. What is told
of a difference leads to success in two rounds at most: zones that are missing are told first, and
once there are none, those that are left over.
-/

namespace PrivateComputation

/-! ## Distinct texts in order -/

theorem mem_distinctSorted_iff {texts : List String} {text : String} :
    text ∈ distinctSorted texts ↔ text ∈ texts := by
  rw [distinctSorted, SortedMap.mem_keys_iff, SortedMap.contains, SortedMap.get?_ofList_map]
  by_cases member : text ∈ texts <;> simp [member]

theorem distinctSorted_eq_iff {left right : List String} :
    distinctSorted left = distinctSorted right ↔ ∀ text, text ∈ left ↔ text ∈ right := by
  constructor
  · intro same text
    rw [← mem_distinctSorted_iff, same, mem_distinctSorted_iff]
  · intro same
    refine congrArg SortedMap.keys (SortedMap.ext_get? ?_)
    intro key
    rw [SortedMap.get?_ofList_map, SortedMap.get?_ofList_map]
    simp only [same]

/-- What is told of zones that are not those of the region. Zones left over are told of only if no
zone is missing. -/
inductive ZoneRemedy (used zones : List String) : Remedy → Prop
  | add {missing : List String} (any : missing ≠ [])
      (lists : ListsExactly missing (fun zone => zone ∈ zones ∧ zone ∉ used)) :
      ZoneRemedy used zones (.addZones missing)
  | remove {extra : List String} (covered : ∀ zone ∈ zones, zone ∈ used)
      (lists : ListsExactly extra (fun zone => zone ∈ used ∧ zone ∉ zones)) :
      ZoneRemedy used zones (.removeZones extra)

theorem judgeZones_of_same {used zones : List String} (region : String)
    (same : ∀ zone, zone ∈ used ↔ zone ∈ zones) : judgeZones region used zones = .passed :=
  if_pos (distinctSorted_eq_iff.mpr same)

def Environment.zones (environment : Environment) : List String :=
  environment.network.subnets.map Subnet.zone

def Environment.withSubnets (environment : Environment) (subnets : List Subnet) : Environment :=
  { environment with network := { environment.network with subnets } }

/-- What becomes of the subnets if a remedy is followed: each zone that is named gets subnets, of
whatever id and in whichever place of the list, or it loses all that it has. -/
inductive Remedy.Rezones : Remedy → List Subnet → List Subnet → Prop
  | addZones {missing : List String} {before added after : List Subnet}
      (named : ∀ zone, zone ∈ added.map Subnet.zone ↔ zone ∈ missing)
      (listed : after.Perm (before ++ added)) : Rezones (.addZones missing) before after
  | removeZones {extra : List String} {before after : List Subnet}
      (listed : after.Perm (before.filter (fun subnet => !extra.contains subnet.zone))) :
      Rezones (.removeZones extra) before after

section Following

variable {environment : Environment} {after : List Subnet} {names zones : List String}

theorem zones_withSubnets (environment : Environment) (subnets : List Subnet) :
    (environment.withSubnets subnets).zones = subnets.map Subnet.zone := rfl

theorem mem_zones_of_removed
    (followed : (Remedy.removeZones names).Rezones environment.network.subnets after)
    (zone : String) :
    zone ∈ (environment.withSubnets after).zones ↔ zone ∈ environment.zones ∧ zone ∉ names := by
  cases followed with
  | removeZones listed =>
      rw [zones_withSubnets, (listed.map Subnet.zone).mem_iff]
      simp only [Environment.zones, List.mem_map, List.mem_filter, Bool.not_eq_true',
        List.contains_eq_mem, decide_eq_false_iff_not]
      constructor
      · rintro ⟨subnet, ⟨member, kept⟩, rfl⟩
        exact ⟨⟨subnet, member, rfl⟩, kept⟩
      · rintro ⟨⟨subnet, member, rfl⟩, kept⟩
        exact ⟨subnet, ⟨member, kept⟩, rfl⟩

namespace ZoneRemedy

variable {remedy : Remedy}

theorem settles (told : ZoneRemedy environment.zones zones remedy)
    (covered : ∀ zone ∈ zones, zone ∈ environment.zones)
    (followed : remedy.Rezones environment.network.subnets after) (zone : String) :
    zone ∈ (environment.withSubnets after).zones ↔ zone ∈ zones := by
  cases told with
  | add any lists =>
      obtain ⟨other, member⟩ := List.exists_mem_of_ne_nil _ any
      obtain ⟨inRegion, unused⟩ := (lists.mem_iff other).mp member
      exact absurd (covered other inRegion) unused
  | remove _ lists =>
      rw [mem_zones_of_removed followed, lists.mem_iff]
      constructor
      · rintro ⟨used, kept⟩
        by_contra outside
        exact kept ⟨used, outside⟩
      · intro inRegion
        exact ⟨covered zone inRegion, fun left => left.2 inRegion⟩

end ZoneRemedy

end Following

namespace ValidationSuite

variable {suite : ValidationSuite} {zones : List String}

theorem verdict_subnets (answered : suite.gateways.describeAvailabilityZones = .ok zones)
    (environment : Environment) :
    suite.verdict .subnets environment =
      .ok (judgeZones environment.region environment.zones zones) := by
  rw [verdict, checkSubnets, answered]
  rfl

end ValidationSuite

end PrivateComputation
