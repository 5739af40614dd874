import Mathlib.Control.Monad.Basic
import PrivateComputation.CommandLine.Perform
import PrivateComputation.Proofs.Validation.Holdings
import PrivateComputation.Proofs.Validation.Questions

/-!
Environments do not leak into each other: what is found out about one depends on what an inventory
holds for it, and on nothing else in the inventory.
-/

namespace PrivateComputation

namespace CloudInventory

/-- Two inventories that hold the same for one environment and answer alike what is asked about its
container definition. Anything else may differ. -/
structure AlikeFor (id : String) (failing : List String) (one other : CloudInventory) : Prop where
  vpcs : one.vpcs.filter (belongsTo id) = other.vpcs.filter (belongsTo id)
  subnets : one.subnets.filter (belongsTo id) = other.subnets.filter (belongsTo id)
  routeTables : one.routeTables.filter (belongsTo id) = other.routeTables.filter (belongsTo id)
  firewallRulesets : one.firewallRulesets.filter (belongsTo id) =
    other.firewallRulesets.filter (belongsTo id)
  clusters : one.clusters.filter (belongsTo id) = other.clusters.filter (belongsTo id)
  containerDefinitions : one.containerDefinitions.filter (belongsTo id) =
    other.containerDefinitions.filter (belongsTo id)
  peerings : ∀ vpc, one.firstVpc? id = some vpc →
    one.vpcPeerings.filter (·.involves vpc.id) = other.vpcPeerings.filter (·.involves vpc.id)
  availabilityZones : one.availabilityZones = other.availabilityZones
  policies : ∀ definition,
    (one.containerDefinitions.filter (belongsTo id)).head? = some definition →
      (one.gateways failing).getPoliciesForRole definition.taskRoleId =
        (other.gateways failing).getPoliciesForRole definition.taskRoleId
  logGroupName : ∀ definition,
    (one.containerDefinitions.filter (belongsTo id)).head? = some definition →
      (one.gateways failing).extractLogGroupName definition.id =
        (other.gateways failing).extractLogGroupName definition.id
  logGroup : ∀ definition name,
    (one.containerDefinitions.filter (belongsTo id)).head? = some definition →
      (one.gateways failing).extractLogGroupName definition.id = .ok (some name) →
        (one.gateways failing).describeLogGroup name =
          (other.gateways failing).describeLogGroup name

namespace AlikeFor

variable {id : String} {failing : List String} {one other : CloudInventory}

theorem firstVpc? (alike : AlikeFor id failing one other) :
    one.firstVpc? id = other.firstVpc? id :=
  congrArg List.head? alike.vpcs

theorem peeringsFor (alike : AlikeFor id failing one other) :
    one.peeringsFor id = other.peeringsFor id := by
  rw [CloudInventory.peeringsFor, CloudInventory.peeringsFor, ← alike.firstVpc?]
  cases first : one.firstVpc? id with
  | none => rfl
  | some vpc => exact alike.peerings vpc first

theorem findDuplicates (alike : AlikeFor id failing one other) :
    findDuplicates (one.gateways failing) id = findDuplicates (other.gateways failing) id := by
  have kinds : one.idsByKind id = other.idsByKind id := by
    simp only [idsByKind, alike.vpcs, alike.routeTables, alike.peeringsFor, alike.clusters,
      alike.containerDefinitions]
  rw [findDuplicates_gateways, findDuplicates_gateways, duplicatesOf, duplicatesOf, kinds,
    scanOperations, scanOperations, alike.firstVpc?]

theorem environmentOf (alike : AlikeFor id failing one other) (region : String) :
    one.environmentOf id region = other.environmentOf id region := by
  simp only [CloudInventory.environmentOf, alike.firstVpc?, alike.subnets, alike.routeTables,
    alike.peeringsFor, alike.firewallRulesets, alike.clusters, alike.containerDefinitions]

theorem loadEnvironment (alike : AlikeFor id failing one other) (region : String) :
    loadEnvironment (one.gateways failing) id region =
      loadEnvironment (other.gateways failing) id region := by
  rw [loadEnvironment_gateways, loadEnvironment_gateways, loadOperations, loadOperations,
    alike.firstVpc?, alike.environmentOf]

theorem agree (alike : AlikeFor id failing one other) (region : String) :
    Gateways.AgreeOn (one.environmentOf id region) (one.gateways failing)
      (other.gateways failing) where
  peerings vpc first := congrArg (answer failing "describe_vpc_peerings") (alike.peerings vpc first)
  policies := alike.policies
  logGroupName := alike.logGroupName
  logGroup := alike.logGroup

theorem run (alike : AlikeFor id failing one other) (region : String) (role : ComputationRole)
    (standards : Standards) (skipped : List ValidationStep) :
    (⟨role, standards, one.gateways failing⟩ : ValidationSuite).run
        (one.environmentOf id region) skipped =
      (⟨role, standards, other.gateways failing⟩ : ValidationSuite).run
        (one.environmentOf id region) skipped := by
  have check : (⟨role, standards, one.gateways failing⟩ : ValidationSuite).check
        (one.environmentOf id region) =
      (⟨role, standards, other.gateways failing⟩ : ValidationSuite).check
        (one.environmentOf id region) := by
    funext step
    have zones : (one.gateways failing).describeAvailabilityZones =
        (other.gateways failing).describeAvailabilityZones :=
      congrArg (answer failing "describe_availability_zones") alike.availabilityZones
    rw [ValidationSuite.check, ValidationSuite.check,
      ValidationSuite.verdict_congr (alike.agree region) step (fun _ => zones)]
  rw [ValidationSuite.run, ValidationSuite.run, check]

theorem findings (alike : AlikeFor id failing one other) (region : String)
    (role : ComputationRole) (standards : Standards) (skipped : List ValidationStep) :
    (⟨role, standards, one.gateways failing⟩ : ValidationSuite).findings id region skipped =
      (⟨role, standards, other.gateways failing⟩ : ValidationSuite).findings id region
        skipped := by
  have loaded : PrivateComputation.loadEnvironment (other.gateways failing) id region =
      answerAll failing (other.loadOperations id) (one.environmentOf id region) := by
    rw [loadEnvironment_gateways, alike.environmentOf]
  rw [ValidationSuite.findings, ValidationSuite.findings, alike.loadEnvironment, loaded, answerAll]
  split
  · rfl
  · exact alike.run region role standards skipped

theorem report (alike : AlikeFor id failing one other) (createdAt : Instant) (region : String)
    (role : ComputationRole) (standards : Standards) (skipped : List ValidationStep) :
    (⟨role, standards, one.gateways failing⟩ : ValidationSuite).report createdAt id region
        skipped =
      (⟨role, standards, other.gateways failing⟩ : ValidationSuite).report createdAt id region
        skipped := by
  rw [ValidationSuite.report, ValidationSuite.report, alike.findDuplicates, alike.findings]

theorem reportOn (alike : AlikeFor id failing one other) (place : Workplace) (settings : Settings)
    (asJson : Bool) (duplicates : List DuplicateResource) :
    place.reportOn settings (one.gateways failing) id asJson duplicates =
      place.reportOn settings (other.gateways failing) id asJson duplicates := by
  simp only [Workplace.reportOn, ValidationSuite.withStandards]
  cases settings.standards.validate with
  | error fault => rfl
  | ok accepted =>
      simp only [bind, Except.bind, alike.findings]

theorem validateWith (alike : AlikeFor id failing one other) (place : Workplace)
    (settings : Settings) (asJson : Bool) :
    place.validateWith settings (one.gateways failing) id asJson =
      place.validateWith settings (other.gateways failing) id asJson := by
  simp only [Workplace.validateWith, alike.findDuplicates, alike.reportOn]

end AlikeFor

end CloudInventory

/-- Two inventories that are alike for an environment cannot be told apart by what is found out
about it, nor by why it cannot be found out. -/
theorem environments_apart (id : String) (failing : List String) (one other : CloudInventory)
    (alike : CloudInventory.AlikeFor id failing one other) :
    findDuplicates (one.gateways failing) id = findDuplicates (other.gateways failing) id ∧
    (∀ region, loadEnvironment (one.gateways failing) id region =
      loadEnvironment (other.gateways failing) id region) ∧
    (∀ role standards createdAt region skipped,
      (⟨role, standards, one.gateways failing⟩ : ValidationSuite).report createdAt id region
          skipped =
        (⟨role, standards, other.gateways failing⟩ : ValidationSuite).report createdAt id region
          skipped) ∧
    ∀ (place : Workplace) settings asJson,
      place.validateWith settings (one.gateways failing) id asJson =
        place.validateWith settings (other.gateways failing) id asJson :=
  ⟨alike.findDuplicates, alike.loadEnvironment,
    fun role standards createdAt region skipped =>
      alike.report createdAt region role standards skipped,
    alike.validateWith⟩

def CloudInventory.shared : CloudInventory :=
  let tags : Tags := SortedMap.empty.insert environmentTag "other"
  { CloudInventory.sample with
    region := "eu-north-1"
    vpcs := ⟨"vpc-3", "10.3.0.0/16", tags⟩ :: CloudInventory.sample.vpcs
    subnets := ⟨"subnet-3", "vpc-1", "us-west-2c", tags⟩ :: CloudInventory.sample.subnets
    routeTables := ⟨"rtb-3", "vpc-1", [], tags⟩ :: CloudInventory.sample.routeTables
    firewallRulesets := ⟨"sg-3", "vpc-1", [], [], tags⟩ :: CloudInventory.sample.firewallRulesets
    vpcPeerings :=
      ⟨"pcx-3", .rejected, .accepter, "vpc-3", "vpc-4", none, none, ∅⟩ ::
        CloudInventory.sample.vpcPeerings
    clusters := ⟨"arn-3", "cluster", .inactive, tags⟩ :: CloudInventory.sample.clusters
    containerDefinitions :=
      ⟨"task-3", "image", 1, 1, [], ∅, "role-3", tags⟩ ::
        CloudInventory.sample.containerDefinitions
    roles := ⟨"role-3", ∅⟩ :: CloudInventory.sample.roles
    logGroups := [⟨"/other"⟩]
    taskLogGroups := CloudInventory.sample.taskLogGroups.insert "task-3" "/other" }

theorem environments_apart_of_shared :
    let one := CloudInventory.sample
    let other := CloudInventory.shared
    CloudInventory.AlikeFor "environment" ["describe_log_group"] one other ∧
      findDuplicates (other.gateways ["describe_log_group"]) "environment" = .ok [] ∧
      (⟨.partner, .default, other.gateways ["describe_log_group"]⟩ : ValidationSuite).report .epoch
        "environment" "us-west-2" [] =
          .error (.unavailable "describe_log_group" "injected failure") := by
  intro one other
  have alike : CloudInventory.AlikeFor "environment" ["describe_log_group"] one other := by
    have chosen : ∀ definition,
        (one.containerDefinitions.filter (belongsTo "environment")).head? = some definition →
          definition.id = "task-1" ∧ definition.taskRoleId = "role-1" := by
      have head : (one.containerDefinitions.filter (belongsTo "environment")).head?.map
          (fun definition => (definition.id, definition.taskRoleId)) =
            some ("task-1", "role-1") := by
        decide +kernel
      intro definition first
      rw [first] at head
      exact Prod.mk.inj (Option.some.inj head)
    constructor
    case peerings =>
      have involved : ∀ vpc ∈ one.firstVpc? "environment",
          one.vpcPeerings.filter (·.involves vpc.id) =
            other.vpcPeerings.filter (·.involves vpc.id) := by
        decide +kernel
      exact involved
    case policies =>
      intro definition first
      rw [(chosen definition first).2]
      simp [one, other, CloudInventory.gateways, CloudInventory.shared, CloudInventory.answer]
    case logGroupName =>
      intro definition first
      rw [(chosen definition first).1]
      decide +kernel
    case logGroup => exact fun _ _ _ _ => rfl
    all_goals decide +kernel
  obtain ⟨duplicates, _, reports, _⟩ :=
    environments_apart "environment" ["describe_log_group"] one other alike
  refine ⟨alike, duplicates.symm.trans ?_,
    (reports .partner .default .epoch "us-west-2" []).symm.trans ?_⟩
  · decide +kernel
  · decide +kernel

end PrivateComputation
