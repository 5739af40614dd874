import PrivateComputation.Cloud.Compute
import PrivateComputation.Cloud.Network
import PrivateComputation.Json.Decoder

/-!
What the cloud interfaces of one region can answer, and the recorded inventory that answers for
them.
-/

namespace PrivateComputation

inductive GatewayFault where
  | unavailable (operation message : String)
  | notFound (name : String)
  | unreadable (message : String)
  | json (fault : JsonFault)
  deriving DecidableEq

def GatewayFault.message : GatewayFault → String
  | .unavailable operation message => operation ++ " failed: " ++ message
  | .notFound name => "Not found: " ++ name
  | .unreadable message => "IO error: " ++ message
  | .json fault => "JSON error: " ++ fault.message

abbrev GatewayResult (α : Type) := Except GatewayFault α

structure Gateways where
  describeVpcs : TagFilter → GatewayResult (List Vpc)
  describeSubnets : TagFilter → GatewayResult (List Subnet)
  describeRouteTables : TagFilter → GatewayResult (List RouteTable)
  describeFirewallRulesets : TagFilter → GatewayResult (List FirewallRuleset)
  describeVpcPeerings : String → GatewayResult (List VpcPeering)
  describeAvailabilityZones : GatewayResult (List String)
  describeClusters : TagFilter → GatewayResult (List Cluster)
  describeContainerDefinitions : TagFilter → GatewayResult (List ContainerDefinition)
  /-- The log group that a container definition sends its logs to, if it sends them anywhere. -/
  extractLogGroupName : String → GatewayResult (Option String)
  getPoliciesForRole : String → GatewayResult (Option IamRole)
  describeLogGroup : String → GatewayResult (Option LogGroup)

structure CloudInventory where
  region : String
  availabilityZones : List String
  vpcs : List Vpc
  subnets : List Subnet
  routeTables : List RouteTable
  firewallRulesets : List FirewallRuleset
  vpcPeerings : List VpcPeering
  clusters : List Cluster
  containerDefinitions : List ContainerDefinition
  roles : List IamRole
  logGroups : List LogGroup
  taskLogGroups : SortedMap String

namespace CloudInventory

def empty : CloudInventory := ⟨"", [], [], [], [], [], [], [], [], [], [], ∅⟩

/-- Answers unless the operation is one of those made to fail. -/
def answer {α : Type} (failing : List String) (operation : String) (value : α) :
    GatewayResult α :=
  if failing.contains operation then .error (.unavailable operation "injected failure")
  else .ok value

def gateways (inventory : CloudInventory) (failing : List String) : Gateways where
  describeVpcs filter := answer failing "describe_vpcs" (inventory.vpcs.filter filter.selects)
  describeSubnets filter :=
    answer failing "describe_subnets" (inventory.subnets.filter filter.selects)
  describeRouteTables filter :=
    answer failing "describe_route_tables" (inventory.routeTables.filter filter.selects)
  describeFirewallRulesets filter :=
    answer failing "describe_firewall_rulesets" (inventory.firewallRulesets.filter filter.selects)
  describeVpcPeerings vpcId :=
    answer failing "describe_vpc_peerings" (inventory.vpcPeerings.filter (·.involves vpcId))
  describeAvailabilityZones :=
    answer failing "describe_availability_zones" inventory.availabilityZones
  describeClusters filter :=
    answer failing "describe_clusters" (inventory.clusters.filter filter.selects)
  describeContainerDefinitions filter :=
    answer failing "describe_container_definitions"
      (inventory.containerDefinitions.filter filter.selects)
  extractLogGroupName definitionId :=
    answer failing "extract_log_group_name" (inventory.taskLogGroups.get? definitionId)
  getPoliciesForRole roleId :=
    answer failing "get_policies_for_role" (inventory.roles.find? (·.id == roleId))
  describeLogGroup name :=
    answer failing "describe_log_group" (inventory.logGroups.find? (·.name == name))

end CloudInventory

end PrivateComputation
