import Mathlib.Data.List.Perm.Basic
import Mathlib.Tactic.Choose
import PrivateComputation.Proofs.Validation.Holdings
import PrivateComputation.Proofs.Validation.Zones

/-!
The order in which an inventory lists its resources is of no account once nothing is held twice: the
same resources are picked, and each step comes to the same code.
-/

namespace PrivateComputation

/-! ## Lists in another order -/

theorem eq_of_perm_of_length_le_one {α : Type} {left right : List α} (same : left.Perm right)
    (short : left.length ≤ 1) : left = right := by
  cases left with
  | nil => exact (List.nil_perm.mp same).symm
  | cons item rest =>
      obtain rfl : rest = [] := List.eq_nil_of_length_eq_zero (by simpa using short)
      exact (List.perm_singleton.mp same.symm).symm

theorem find?_logGroup_perm {left right : List LogGroup} (same : left.Perm right) (name : String) :
    left.find? (·.name == name) = right.find? (·.name == name) := by
  have found : ∀ groups : List LogGroup,
      groups.find? (·.name == name) = if ⟨name⟩ ∈ groups then some ⟨name⟩ else none := by
    intro groups
    induction groups with
    | nil => rfl
    | cons group rest ih =>
        obtain ⟨other⟩ := group
        by_cases here : other = name
        · simp [here]
        · simp [here, ih, Ne.symm here]
  rw [found, found]
  simp only [same.mem_iff]

/-! ## Findings -/

def Finding.mark (finding : Finding) : Option String × FindingCode := (finding.step, finding.code)

theorem Finding.map_mark_congr {finding otherFinding : ValidationStep → Finding}
    (same : ∀ step, (finding step).mark = (otherFinding step).mark)
    (steps : List ValidationStep) :
    ((steps.map finding).filter (fun finding => !finding.isSuccess)).map mark =
      ((steps.map otherFinding).filter (fun finding => !finding.isSuccess)).map mark := by
  have success : ∀ step, (finding step).isSuccess = (otherFinding step).isSuccess := by
    intro step
    rw [isSuccess, isSuccess, (Prod.mk.inj (same step)).2]
  induction steps with
  | nil => rfl
  | cons step rest ih =>
      simp only [List.map_cons, List.filter_cons, success step]
      cases (otherFinding step).isSuccess with
      | true => exact ih
      | false => exact congrArg₂ List.cons (same step) ih

/-! ## Verdicts -/

theorem Verdict.code_ofProblems_perm {failings otherFailings warnings otherWarnings : List Problem}
    (remedies otherRemedies : List Remedy) (failing : failings.Perm otherFailings)
    (warning : warnings.Perm otherWarnings) :
    (ofProblems failings remedies warnings).code =
      (ofProblems otherFailings otherRemedies otherWarnings).code := by
  rw [ofProblems, ofProblems, failing.isEmpty_eq, warning.isEmpty_eq]
  cases otherFailings.isEmpty <;> cases otherWarnings.isEmpty <;> rfl

section Firewall

variable {standards : Standards} {left right : List FirewallRuleset}

theorem meetingRanges_perm (standards : Standards) (same : left.Perm right) (route : Route) :
    (meetingRanges standards left route).Perm (meetingRanges standards right route) :=
  same.flatMap_right _

theorem routeFailings_perm (same : left.Perm right) (vpc : Vpc) (route : Route) :
    (routeFailings standards vpc left route).Perm (routeFailings standards vpc right route) := by
  have ranges := meetingRanges_perm standards same route
  simp only [routeFailings, ranges.isEmpty_eq]
  exact ((ranges.filter _).map _).append_right _

theorem routeWarnings_perm (same : left.Perm right) (route : Route) :
    (routeWarnings standards left route).Perm (routeWarnings standards right route) :=
  ((meetingRanges_perm standards same route).filter _).map _

end Firewall

/-- Two environments with the same resources, where subnets and firewall rulesets may be listed in
another order. -/
structure Environment.SameUpToOrder (one other : Environment) : Prop where
  id : one.id = other.id
  region : one.region = other.region
  vpc : one.network.vpc = other.network.vpc
  subnets : one.network.subnets.Perm other.network.subnets
  routeTable : one.network.routeTable = other.network.routeTable
  peering : one.network.peering = other.network.peering
  firewallRulesets : one.network.firewallRulesets.Perm other.network.firewallRulesets
  compute : one.compute = other.compute

namespace Environment.SameUpToOrder

variable {one other : Environment}

theorem code_checkFirewall (same : one.SameUpToOrder other) (standards : Standards) :
    (checkFirewall standards one).code = (checkFirewall standards other).code := by
  simp only [checkFirewall, same.vpc, same.routeTable, same.firewallRulesets.isEmpty_eq]
  cases other.network.vpc with
  | none => rfl
  | some vpc =>
      dsimp only
      split
      · rfl
      · split
        · rfl
        · cases other.network.routeTable with
          | none => rfl
          | some table =>
              refine Verdict.code_ofProblems_perm _ _ (List.Perm.map _ ?_) ?_
              · exact List.Perm.flatMap_left _
                  (fun route _ => routeFailings_perm same.firewallRulesets vpc route)
              · exact List.Perm.flatMap_left _
                  (fun route _ => routeWarnings_perm same.firewallRulesets route)

theorem judgeZones_eq (same : one.SameUpToOrder other) {zones otherZones : List String}
    (sameZones : zones.Perm otherZones) :
    judgeZones one.region (one.network.subnets.map Subnet.zone) zones =
      judgeZones other.region (other.network.subnets.map Subnet.zone) otherZones := by
  have used := distinctSorted_eq_iff.mpr (fun _ => (same.subnets.map Subnet.zone).mem_iff)
  have existing := distinctSorted_eq_iff.mpr (fun _ => sameZones.mem_iff)
  rw [judgeZones, judgeZones, same.region, used, existing]

theorem verdict_eq (same : one.SameUpToOrder other) (suite : ValidationSuite)
    {step : ValidationStep} (notFirewall : step ≠ .firewall) (notSubnets : step ≠ .subnets) :
    suite.verdict step one = suite.verdict step other := by
  cases step with
  | vpcCidr => simp only [ValidationSuite.verdict, checkVpcCidr, same.vpc]
  | vpcPeering =>
      simp only [ValidationSuite.verdict, checkVpcPeering, judgedPeering, same.vpc, same.peering]
  | firewall => exact absurd rfl notFirewall
  | routeTable => simp only [ValidationSuite.verdict, checkRouteTable, same.routeTable]
  | subnets => exact absurd rfl notSubnets
  | clusterDefinition =>
      simp only [ValidationSuite.verdict, checkClusterDefinition, same.compute]
  | iamRoles => simp only [ValidationSuite.verdict, checkIamRoles, same.compute]
  | logGroup => simp only [ValidationSuite.verdict, checkLogGroup, same.compute]

end Environment.SameUpToOrder

namespace CloudInventory

/-- The same resources, perhaps listed in another order. -/
structure Reordered (one other : CloudInventory) : Prop where
  region : one.region = other.region
  availabilityZones : one.availabilityZones.Perm other.availabilityZones
  vpcs : one.vpcs.Perm other.vpcs
  subnets : one.subnets.Perm other.subnets
  routeTables : one.routeTables.Perm other.routeTables
  firewallRulesets : one.firewallRulesets.Perm other.firewallRulesets
  vpcPeerings : one.vpcPeerings.Perm other.vpcPeerings
  clusters : one.clusters.Perm other.clusters
  containerDefinitions : one.containerDefinitions.Perm other.containerDefinitions
  roles : one.roles = other.roles
  logGroups : one.logGroups.Perm other.logGroups
  taskLogGroups : one.taskLogGroups = other.taskLogGroups

variable {one other : CloudInventory} {id : String}

theorem Reordered.symm (reordered : one.Reordered other) : other.Reordered one where
  region := reordered.region.symm
  availabilityZones := reordered.availabilityZones.symm
  vpcs := reordered.vpcs.symm
  subnets := reordered.subnets.symm
  routeTables := reordered.routeTables.symm
  firewallRulesets := reordered.firewallRulesets.symm
  vpcPeerings := reordered.vpcPeerings.symm
  clusters := reordered.clusters.symm
  containerDefinitions := reordered.containerDefinitions.symm
  roles := reordered.roles.symm
  logGroups := reordered.logGroups.symm
  taskLogGroups := reordered.taskLogGroups.symm

theorem Reordered.firstVpc? (reordered : one.Reordered other) (unambiguous : one.Unambiguous id) :
    one.firstVpc? id = other.firstVpc? id :=
  congrArg List.head?
    (eq_of_perm_of_length_le_one (reordered.vpcs.filter (belongsTo id)) unambiguous.vpcs)

theorem Reordered.unambiguous (reordered : one.Reordered other)
    (unambiguous : one.Unambiguous id) : other.Unambiguous id where
  vpcs := (reordered.vpcs.filter _).length_eq ▸ unambiguous.vpcs
  routeTables := (reordered.routeTables.filter _).length_eq ▸ unambiguous.routeTables
  peerings := by
    intro vpc first
    rw [← reordered.firstVpc? unambiguous] at first
    rw [← (reordered.vpcPeerings.filter _).length_eq]
    exact unambiguous.peerings vpc first
  clusters := (reordered.clusters.filter _).length_eq ▸ unambiguous.clusters
  containerDefinitions :=
    (reordered.containerDefinitions.filter _).length_eq ▸ unambiguous.containerDefinitions

theorem Reordered.peeringsFor (reordered : one.Reordered other)
    (unambiguous : one.Unambiguous id) : one.peeringsFor id = other.peeringsFor id := by
  refine eq_of_perm_of_length_le_one ?_ (length_peeringsFor_le_one_iff.mpr unambiguous.peerings)
  rw [CloudInventory.peeringsFor, CloudInventory.peeringsFor, reordered.firstVpc? unambiguous]
  cases other.firstVpc? id with
  | none => exact .nil
  | some vpc => exact reordered.vpcPeerings.filter _

theorem Reordered.environmentOf (reordered : one.Reordered other)
    (unambiguous : one.Unambiguous id) (region : String) :
    (one.environmentOf id region).SameUpToOrder (other.environmentOf id region) := by
  have first := reordered.firstVpc? unambiguous
  have tables := eq_of_perm_of_length_le_one (reordered.routeTables.filter (belongsTo id))
    unambiguous.routeTables
  have clusters := eq_of_perm_of_length_le_one (reordered.clusters.filter (belongsTo id))
    unambiguous.clusters
  have definitions := eq_of_perm_of_length_le_one
    (reordered.containerDefinitions.filter (belongsTo id)) unambiguous.containerDefinitions
  constructor
  case id | region => rfl
  case vpc => exact first
  case subnets =>
    simp only [CloudInventory.environmentOf, first]
    exact (reordered.subnets.filter _).filter _
  case routeTable => simp only [CloudInventory.environmentOf, first, tables]
  case peering => exact congrArg List.head? (reordered.peeringsFor unambiguous)
  case firewallRulesets =>
    simp only [CloudInventory.environmentOf, first]
    exact (reordered.firewallRulesets.filter _).filter _
  case compute => simp only [CloudInventory.environmentOf, clusters, definitions]

theorem Reordered.agree (reordered : one.Reordered other) (unambiguous : one.Unambiguous id)
    (region : String) :
    Gateways.AgreeOn (one.environmentOf id region) (one.gateways []) (other.gateways []) where
  peerings vpc first := congrArg Except.ok
    (eq_of_perm_of_length_le_one (reordered.vpcPeerings.filter (·.involves vpc.id))
      (unambiguous.peerings vpc first))
  policies _ _ := by simp only [gateways, reordered.roles]
  logGroupName _ _ := by simp only [gateways, reordered.taskLogGroups]
  logGroup _ name _ _ := congrArg Except.ok (find?_logGroup_perm reordered.logGroups name)

theorem Reordered.code_verdict (reordered : one.Reordered other)
    (unambiguous : one.Unambiguous id) (region : String) (role : ComputationRole)
    (standards : Standards) (step : ValidationStep) :
    ((⟨role, standards, one.gateways []⟩ : ValidationSuite).verdict step
        (one.environmentOf id region)).map Verdict.code =
      ((⟨role, standards, other.gateways []⟩ : ValidationSuite).verdict step
        (other.environmentOf id region)).map Verdict.code := by
  have same := reordered.environmentOf unambiguous region
  by_cases firewall : step = .firewall
  · subst firewall
    exact congrArg Except.ok (same.code_checkFirewall standards)
  · by_cases subnets : step = .subnets
    · subst subnets
      exact congrArg (fun verdict => Except.ok verdict.code)
        (same.judgeZones_eq reordered.availabilityZones)
    · rw [ValidationSuite.verdict_congr (reordered.agree unambiguous region) step
        (fun zones => absurd zones subnets), same.verdict_eq _ firewall subnets]

/-- What one inventory is found to be at fault with, step by step, the other is too. -/
theorem Reordered.codes_run (reordered : one.Reordered other) (unambiguous : one.Unambiguous id)
    (region : String) (role : ComputationRole) (standards : Standards)
    (skipped : List ValidationStep) :
    ∃ findings otherFindings,
      (⟨role, standards, one.gateways []⟩ : ValidationSuite).run
        (one.environmentOf id region) skipped = .ok findings ∧
      (⟨role, standards, other.gateways []⟩ : ValidationSuite).run
        (other.environmentOf id region) skipped = .ok otherFindings ∧
      findings.map Finding.mark = otherFindings.map Finding.mark := by
  choose verdict judged using ValidationSuite.exists_verdict one role standards
    (one.environmentOf id region)
  choose otherVerdict otherJudged using ValidationSuite.exists_verdict other role standards
    (other.environmentOf id region)
  refine ⟨_, _,
    ValidationSuite.run_of_answers (fun step => ValidationSuite.check_of_verdict (judged step)) _,
    ValidationSuite.run_of_answers
      (fun step => ValidationSuite.check_of_verdict (otherJudged step)) _, ?_⟩
  refine Finding.map_mark_congr ?_ _
  intro step
  have same := reordered.code_verdict unambiguous region role standards step
  rw [judged, otherJudged] at same
  exact congrArg (fun code => (some step.name, code)) (Except.ok.inj same)

end CloudInventory

/-- The order in which resources are listed decides neither whether something is held twice nor,
when nothing is, what is picked and what the steps find. -/
theorem order_irrelevant (one other : CloudInventory) (reordered : one.Reordered other)
    (id : String) :
    ∃ found otherFound,
      findDuplicates (one.gateways []) id = .ok found ∧
      findDuplicates (other.gateways []) id = .ok otherFound ∧
      (found = [] ↔ otherFound = []) ∧
      (found = [] → ∀ region, ∃ environment otherEnvironment,
        loadEnvironment (one.gateways []) id region = .ok environment ∧
        loadEnvironment (other.gateways []) id region = .ok otherEnvironment ∧
        environment.SameUpToOrder otherEnvironment ∧
        ∀ role standards skipped, ∃ findings otherFindings,
          (⟨role, standards, one.gateways []⟩ : ValidationSuite).run environment skipped =
            .ok findings ∧
          (⟨role, standards, other.gateways []⟩ : ValidationSuite).run otherEnvironment skipped =
            .ok otherFindings ∧
          findings.map Finding.mark = otherFindings.map Finding.mark) := by
  refine ⟨_, _, CloudInventory.findDuplicates_faultless, CloudInventory.findDuplicates_faultless,
    ?_, ?_⟩
  · rw [CloudInventory.duplicatesOf_eq_nil_iff, CloudInventory.duplicatesOf_eq_nil_iff]
    exact ⟨reordered.unambiguous, reordered.symm.unambiguous⟩
  · intro nothing region
    have unambiguous := CloudInventory.duplicatesOf_eq_nil_iff.mp nothing
    exact ⟨_, _, CloudInventory.loadEnvironment_faultless region,
      CloudInventory.loadEnvironment_faultless region, reordered.environmentOf unambiguous region,
      reordered.codes_run unambiguous region⟩

def CloudInventory.reversed (inventory : CloudInventory) : CloudInventory :=
  { inventory with
    availabilityZones := inventory.availabilityZones.reverse
    vpcs := inventory.vpcs.reverse
    subnets := inventory.subnets.reverse
    routeTables := inventory.routeTables.reverse
    firewallRulesets := inventory.firewallRulesets.reverse
    vpcPeerings := inventory.vpcPeerings.reverse
    clusters := inventory.clusters.reverse
    containerDefinitions := inventory.containerDefinitions.reverse
    logGroups := inventory.logGroups.reverse }

theorem CloudInventory.reordered_reversed (inventory : CloudInventory) :
    inventory.Reordered inventory.reversed where
  region := rfl
  availabilityZones := (List.reverse_perm _).symm
  vpcs := (List.reverse_perm _).symm
  subnets := (List.reverse_perm _).symm
  routeTables := (List.reverse_perm _).symm
  firewallRulesets := (List.reverse_perm _).symm
  vpcPeerings := (List.reverse_perm _).symm
  clusters := (List.reverse_perm _).symm
  containerDefinitions := (List.reverse_perm _).symm
  roles := rfl
  logGroups := (List.reverse_perm _).symm
  taskLogGroups := rfl

theorem order_irrelevant_of_reversed :
    let one := CloudInventory.sample
    let other := one.reversed
    one.Reordered other ∧ ∃ environment otherEnvironment findings otherFindings,
      loadEnvironment (one.gateways []) "environment" "us-west-2" = .ok environment ∧
      loadEnvironment (other.gateways []) "environment" "us-west-2" = .ok otherEnvironment ∧
      environment.network.subnets ≠ otherEnvironment.network.subnets ∧
      (⟨.partner, .default, one.gateways []⟩ : ValidationSuite).run environment [] =
        .ok findings ∧
      (⟨.partner, .default, other.gateways []⟩ : ValidationSuite).run otherEnvironment [] =
        .ok otherFindings ∧
      findings.map Finding.mark = [(some "log_group", .warning)] ∧
      otherFindings.map Finding.mark = [(some "log_group", .warning)] := by
  intro one other
  have reordered : one.Reordered other := one.reordered_reversed
  obtain ⟨found, _, scanned, _, _, picked⟩ := order_irrelevant one other reordered "environment"
  have nothing : found = [] := by
    have duplicates : one.duplicatesOf "environment" = [] := by decide +kernel
    rw [CloudInventory.findDuplicates_faultless, duplicates] at scanned
    exact (Except.ok.inj scanned).symm
  obtain ⟨environment, otherEnvironment, loaded, otherLoaded, _, judged⟩ :=
    picked nothing "us-west-2"
  obtain ⟨findings, otherFindings, ran, otherRan, marks⟩ := judged .partner .default []
  obtain rfl : one.environmentOf "environment" "us-west-2" = environment :=
    Except.ok.inj ((CloudInventory.loadEnvironment_faultless _).symm.trans loaded)
  obtain rfl : other.environmentOf "environment" "us-west-2" = otherEnvironment :=
    Except.ok.inj ((CloudInventory.loadEnvironment_faultless _).symm.trans otherLoaded)
  have outcome : ((⟨.partner, .default, one.gateways []⟩ : ValidationSuite).run
      (one.environmentOf "environment" "us-west-2") []).toOption.map (List.map Finding.mark) =
        some [(some "log_group", .warning)] := by
    decide +kernel
  rw [ran] at outcome
  have missing : findings.map Finding.mark = [(some "log_group", .warning)] :=
    Option.some.inj outcome
  exact ⟨reordered, _, _, findings, otherFindings, loaded, otherLoaded, by decide +kernel, ran,
    otherRan, missing, marks.symm.trans missing⟩

end PrivateComputation
