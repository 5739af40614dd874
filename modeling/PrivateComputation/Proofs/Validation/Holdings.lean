import PrivateComputation.Validation.Selection
import PrivateComputation.Validation.Standards

/-!
What a recorded inventory holds for an environment, and what the scan for duplicates and the loading
of the environment make of it.
-/

namespace PrivateComputation

namespace CloudInventory

section Holdings

variable (inventory : CloudInventory) (id : String)

def firstVpc? : Option Vpc := (inventory.vpcs.filter (belongsTo id)).head?

/-- The peering connections that involve the first network of an environment; they are picked by
that network, not by a tag. -/
def peeringsFor : List VpcPeering :=
  match inventory.firstVpc? id with
  | some vpc => inventory.vpcPeerings.filter (·.involves vpc.id)
  | none => []

def idsByKind : List (String × List String) :=
  [("VPCs", (inventory.vpcs.filter (belongsTo id)).map Vpc.id),
    ("Route Tables", (inventory.routeTables.filter (belongsTo id)).map RouteTable.id),
    ("VPC Peerings", (inventory.peeringsFor id).map VpcPeering.id),
    ("Clusters", (inventory.clusters.filter (belongsTo id)).map Cluster.arn),
    ("Container Definitions",
      (inventory.containerDefinitions.filter (belongsTo id)).map ContainerDefinition.id)]

def duplicatesOf : List DuplicateResource :=
  ((inventory.idsByKind id).filter (fun kind => 1 < kind.2.length)).map
    (fun kind => ⟨kind.1, ", ".intercalate kind.2⟩)

structure Unambiguous : Prop where
  vpcs : (inventory.vpcs.filter (belongsTo id)).length ≤ 1
  routeTables : (inventory.routeTables.filter (belongsTo id)).length ≤ 1
  peerings : ∀ vpc, inventory.firstVpc? id = some vpc →
    (inventory.vpcPeerings.filter (·.involves vpc.id)).length ≤ 1
  clusters : (inventory.clusters.filter (belongsTo id)).length ≤ 1
  containerDefinitions : (inventory.containerDefinitions.filter (belongsTo id)).length ≤ 1

/-- The environment as it is loaded: the first resource of each kind, and of what lies in a network
only what lies in the first one. -/
def environmentOf (region : String) : Environment :=
  let inVpc (vpcId : String) : Bool := (inventory.firstVpc? id).all (fun vpc => vpc.id == vpcId)
  let subnets := inventory.subnets.filter (belongsTo id)
  let tables := inventory.routeTables.filter (belongsTo id)
  let rulesets := inventory.firewallRulesets.filter (belongsTo id)
  let network : EnvironmentNetwork :=
    ⟨inventory.firstVpc? id, subnets.filter (fun subnet => inVpc subnet.vpcId),
      tables.find? (fun table => inVpc table.vpcId), (inventory.peeringsFor id).head?,
      rulesets.filter (fun ruleset => inVpc ruleset.vpcId)⟩
  ⟨id, region, network,
    ⟨(inventory.clusters.filter (belongsTo id)).head?,
      (inventory.containerDefinitions.filter (belongsTo id)).head?⟩⟩

def scanOperations : List String :=
  ["describe_vpcs", "describe_route_tables"] ++
    (if (inventory.firstVpc? id).isSome then ["describe_vpc_peerings"] else []) ++
    ["describe_clusters", "describe_container_definitions"]

def loadOperations : List String :=
  ["describe_vpcs", "describe_subnets", "describe_route_tables", "describe_firewall_rulesets"] ++
    (if (inventory.firstVpc? id).isSome then ["describe_vpc_peerings"] else []) ++
    ["describe_clusters", "describe_container_definitions"]

end Holdings

/-- The answer after several questions in turn: the first one that is made to fail decides. -/
def answerAll {α : Type} (failing operations : List String) (value : α) : GatewayResult α :=
  match operations.find? failing.contains with
  | some operation => .error (.unavailable operation "injected failure")
  | none => .ok value

variable {inventory : CloudInventory} {id : String}

theorem length_peeringsFor_le_one_iff : (inventory.peeringsFor id).length ≤ 1 ↔
    ∀ vpc, inventory.firstVpc? id = some vpc →
      (inventory.vpcPeerings.filter (·.involves vpc.id)).length ≤ 1 := by
  rw [peeringsFor]
  cases inventory.firstVpc? id with
  | none => simp
  | some vpc => simp

theorem duplicatesOf_eq_nil_iff : inventory.duplicatesOf id = [] ↔ inventory.Unambiguous id := by
  have kinds : inventory.duplicatesOf id = [] ↔
      ∀ kind ∈ inventory.idsByKind id, kind.2.length ≤ 1 := by
    simp [duplicatesOf, List.filter_eq_nil_iff]
  rw [kinds]
  simp only [idsByKind, List.forall_mem_cons, List.length_map, length_peeringsFor_le_one_iff]
  constructor
  · rintro ⟨vpcs, routeTables, peerings, clusters, definitions, -⟩
    exact ⟨vpcs, routeTables, peerings, clusters, definitions⟩
  · rintro ⟨vpcs, routeTables, peerings, clusters, definitions⟩
    exact ⟨vpcs, routeTables, peerings, clusters, definitions, by simp⟩

theorem flatMap_ofIds (kinds : List (String × List String)) :
    kinds.flatMap (fun kind => DuplicateResource.ofIds kind.1 kind.2) =
      (kinds.filter (fun kind => 1 < kind.2.length)).map
        (fun kind => ⟨kind.1, ", ".intercalate kind.2⟩) := by
  induction kinds with
  | nil => rfl
  | cons kind rest ih =>
      rw [List.flatMap_cons, ih, DuplicateResource.ofIds]
      by_cases several : 1 < kind.2.length
      · simp [several]
      · simp [several]

/-! ## Questions in turn -/

theorem answer_bind {α β : Type} (failing : List String) (operation : String) (value : α)
    (next : α → GatewayResult β) :
    (answer failing operation value >>= next) =
      (answer failing operation () >>= fun _ => next value) := by
  by_cases fails : failing.contains operation = true
  · simp only [answer, fails, if_true]
    rfl
  · simp only [answer, fails, Bool.false_eq_true, if_false]
    rfl

theorem answer_map {α β : Type} (failing : List String) (operation : String) (value : α)
    (change : α → β) :
    (answer failing operation value).map change = answer failing operation (change value) := by
  rw [answer, answer]
  split <;> rfl

theorem answerAll_cons {α : Type} (failing : List String) (operation : String)
    (operations : List String) (value : α) :
    answerAll failing (operation :: operations) value =
      (answer failing operation () >>= fun _ => answerAll failing operations value) := by
  by_cases fails : failing.contains operation = true
  · simp only [answerAll, answer, List.find?_cons, fails, if_true]
    rfl
  · simp only [answerAll, answer, List.find?_cons, fails, Bool.false_eq_true, if_false]
    rfl

theorem answerAll_faultless {α : Type} (operations : List String) (value : α) :
    answerAll [] operations value = .ok value := by
  have none : operations.find? ([] : List String).contains = none := by simp
  rw [answerAll, none]

theorem answerAll_nil {α : Type} (failing : List String) (value : α) :
    answerAll failing [] value = .ok value :=
  rfl

theorem findDuplicates_gateways (failing : List String) :
    findDuplicates (inventory.gateways failing) id =
      answerAll failing (inventory.scanOperations id) (inventory.duplicatesOf id) := by
  have first : (inventory.vpcs.filter (TagFilter.environment id).selects).head? =
      inventory.firstVpc? id := rfl
  have entries : inventory.duplicatesOf id = (inventory.idsByKind id).flatMap
      (fun kind => DuplicateResource.ofIds kind.1 kind.2) := (flatMap_ofIds _).symm
  simp only [findDuplicates, gateways, answer_bind _ _ (List.filter _ _), first, entries,
    idsByKind, peeringsFor, scanOperations, List.flatMap_cons, List.flatMap_nil, List.append_nil,
    List.append_assoc]
  -- Peerings are asked for only where a network was found.
  cases inventory.firstVpc? id with
  | none =>
      simp only [Option.isSome_none, Bool.false_eq_true, if_false, List.cons_append,
        List.nil_append, answerAll_cons, answerAll_nil]
      rfl
  | some vpc =>
      simp only [Option.isSome_some, if_true, List.cons_append, List.nil_append, answerAll_cons,
        answerAll_nil]
      rfl

theorem loadEnvironment_gateways (failing : List String) (region : String) :
    loadEnvironment (inventory.gateways failing) id region =
      answerAll failing (inventory.loadOperations id) (inventory.environmentOf id region) := by
  have first : (inventory.vpcs.filter (TagFilter.environment id).selects).head? =
      inventory.firstVpc? id := rfl
  simp only [loadEnvironment, gateways, answer_bind _ _ (List.filter _ _), first, environmentOf,
    peeringsFor, loadOperations]
  cases inventory.firstVpc? id with
  | none =>
      simp only [Option.isSome_none, Bool.false_eq_true, if_false, List.cons_append,
        List.nil_append, answerAll_cons, answerAll_nil]
      rfl
  | some vpc =>
      simp only [Option.isSome_some, if_true, List.cons_append, List.nil_append, answerAll_cons,
        answerAll_nil, answer_map, answer_bind _ _ (List.head? _)]
      rfl

theorem findDuplicates_faultless :
    findDuplicates (inventory.gateways []) id = .ok (inventory.duplicatesOf id) := by
  rw [findDuplicates_gateways, answerAll_faultless]

theorem loadEnvironment_faultless (region : String) :
    loadEnvironment (inventory.gateways []) id region =
      .ok (inventory.environmentOf id region) := by
  rw [loadEnvironment_gateways, answerAll_faultless]

/-! ## A small inventory -/

/-- An environment of a partner as it should be, but for the log group, which is missing. -/
def sample : CloudInventory :=
  let tags : Tags := SortedMap.empty.insert environmentTag "environment"
  { region := "us-west-2"
    availabilityZones := ["us-west-2a", "us-west-2b"]
    vpcs := [⟨"vpc-1", "10.1.0.0/16", tags⟩]
    subnets :=
      [⟨"subnet-1", "vpc-1", "us-west-2a", tags⟩, ⟨"subnet-2", "vpc-1", "us-west-2b", tags⟩]
    routeTables :=
      [⟨"rtb-1", "vpc-1",
        [⟨"10.0.0.0/16", ⟨"pcx-1", .vpcPeering⟩, .active⟩,
          ⟨"0.0.0.0/0", ⟨"igw-1", .internet⟩, .active⟩], tags⟩]
    firewallRulesets := [⟨"sg-1", "vpc-1", [⟨5000, 15500, "tcp", "10.0.0.0/16"⟩], [], tags⟩]
    vpcPeerings := [⟨"pcx-1", .active, .requester, "vpc-1", "vpc-2", none, none, ∅⟩]
    clusters := [⟨"arn-1", "cluster", .active, tags⟩]
    containerDefinitions :=
      [⟨"task-1", "onedocker/pce-worker:latest", 4096, 30720, [], ∅, "role-1", tags⟩]
    roles := [⟨"role-1", SortedMap.empty.insert "policy" Standards.defaultTaskPolicy⟩]
    logGroups := []
    taskLogGroups := SortedMap.empty.insert "task-1" "/task" }

end CloudInventory

end PrivateComputation
