import PrivateComputation.Cloud.Container
import PrivateComputation.Cloud.Environment
import PrivateComputation.Cloud.Inventory

/-!
The JSON forms of cloud resources.
-/

namespace PrivateComputation

open Decoder (Variants)

def tagsDecoder : Decoder Tags := .sortedMap .string

def textMapJson (map : SortedMap String) : Json :=
  .object (map.entries.map (fun entry => (entry.1, .string entry.2)))

/-! ## Network -/

namespace Vpc

def decoder : Decoder Vpc :=
  .record "Vpc"
    [.required "vpc_id" .string, .required "cidr" .string, .withDefault "tags" tagsDecoder ∅]
    (fun (id, cidr, tags, ()) => ⟨id, cidr, tags⟩)

def toJson (vpc : Vpc) : Json :=
  .object [("vpc_id", .string vpc.id), ("cidr", .string vpc.cidr), ("tags", textMapJson vpc.tags)]

end Vpc

namespace Subnet

def decoder : Decoder Subnet :=
  .record "Subnet"
    [.required "subnet_id" .string, .withDefault "vpc_id" .string "",
      .required "availability_zone" .string, .withDefault "tags" tagsDecoder ∅]
    (fun (id, vpcId, zone, tags, ()) => ⟨id, vpcId, zone, tags⟩)

def toJson (subnet : Subnet) : Json :=
  .object
    [("subnet_id", .string subnet.id), ("vpc_id", .string subnet.vpcId),
      ("availability_zone", .string subnet.zone), ("tags", textMapJson subnet.tags)]

end Subnet

namespace RouteTargetKind

def decoder : Decoder RouteTargetKind :=
  .variant ⟨[("INTERNET", .internet), ("VPC_PEERING", .vpcPeering)], some .other⟩

def name : RouteTargetKind → String
  | .internet => "INTERNET"
  | .vpcPeering => "VPC_PEERING"
  | .other => "OTHER"

end RouteTargetKind

namespace RouteTarget

def decoder : Decoder RouteTarget :=
  .record "RouteTarget"
    [.required "route_target_id" .string, .required "route_target_type" RouteTargetKind.decoder]
    (fun (id, kind, ()) => ⟨id, kind⟩)

def toJson (target : RouteTarget) : Json :=
  .object
    [("route_target_id", .string target.id), ("route_target_type", .string target.kind.name)]

end RouteTarget

namespace RouteState

def decoder : Decoder RouteState :=
  .variant ⟨[("ACTIVE", .active), ("BLACKHOLE", .blackhole)], some .unknown⟩

def name : RouteState → String
  | .active => "ACTIVE"
  | .blackhole => "BLACKHOLE"
  | .unknown => "UNKNOWN"

end RouteState

namespace Route

def decoder : Decoder Route :=
  .record "Route"
    [.required "destination_cidr_block" .string, .required "route_target" RouteTarget.decoder,
      .required "state" RouteState.decoder]
    (fun (destination, target, state, ()) => ⟨destination, target, state⟩)

def toJson (route : Route) : Json :=
  .object
    [("destination_cidr_block", .string route.destination), ("route_target", route.target.toJson),
      ("state", .string route.state.name)]

end Route

namespace RouteTable

def decoder : Decoder RouteTable :=
  .record "RouteTable"
    [.required "id" .string, .withDefault "vpc_id" .string "",
      .withDefault "routes" (.list Route.decoder) [], .withDefault "tags" tagsDecoder ∅]
    (fun (id, vpcId, routes, tags, ()) => ⟨id, vpcId, routes, tags⟩)

def toJson (table : RouteTable) : Json :=
  .object
    [("id", .string table.id), ("vpc_id", .string table.vpcId),
      ("routes", .array (table.routes.map Route.toJson)), ("tags", textMapJson table.tags)]

end RouteTable

namespace PeeringStatus

def decoder : Decoder PeeringStatus :=
  .variant
    ⟨[("ACTIVE", .active), ("PENDING_ACCEPTANCE", .pendingAcceptance), ("REJECTED", .rejected),
      ("NOT_READY", .notReady)], some .unknown⟩

end PeeringStatus

namespace PeeringRole

def decoder : Decoder PeeringRole :=
  .variant ⟨[("REQUESTER", .requester), ("ACCEPTER", .accepter)], none⟩

def name : PeeringRole → String
  | .requester => "REQUESTER"
  | .accepter => "ACCEPTER"

end PeeringRole

namespace VpcPeering

def decoder : Decoder VpcPeering :=
  .record "VpcPeering"
    [.required "id" .string, .required "status" PeeringStatus.decoder,
      .required "role" PeeringRole.decoder, .required "requester_vpc_id" .string,
      .required "accepter_vpc_id" .string, .optional "requester_vpc_cidr" .string,
      .optional "accepter_vpc_cidr" .string, .withDefault "tags" tagsDecoder ∅]
    (fun (id, status, role, requester, accepter, requesterCidr, accepterCidr, tags, ()) =>
      ⟨id, status, role, requester, accepter, requesterCidr, accepterCidr, tags⟩)

def toJson (peering : VpcPeering) : Json :=
  .object
    ([("id", .string peering.id), ("status", .string peering.status.name),
        ("role", .string peering.role.name),
        ("requester_vpc_id", .string peering.requesterVpcId),
        ("accepter_vpc_id", .string peering.accepterVpcId)] ++
      Json.optionalMember "requester_vpc_cidr" (peering.requesterVpcCidr.map .string) ++
      Json.optionalMember "accepter_vpc_cidr" (peering.accepterVpcCidr.map .string) ++
      [("tags", textMapJson peering.tags)])

end VpcPeering

namespace FirewallRule

def decoder : Decoder FirewallRule :=
  .record "FirewallRule"
    [.required "from_port" .uint16, .required "to_port" .uint16, .required "ip_protocol" .string,
      .required "cidr" .string]
    (fun (fromPort, toPort, protocol, cidr, ()) => ⟨fromPort, toPort, protocol, cidr⟩)

def toJson (rule : FirewallRule) : Json :=
  .object
    [("from_port", .ofNat rule.fromPort.toNat), ("to_port", .ofNat rule.toPort.toNat),
      ("ip_protocol", .string rule.protocol), ("cidr", .string rule.cidr)]

end FirewallRule

namespace FirewallRuleset

def decoder : Decoder FirewallRuleset :=
  .record "FirewallRuleset"
    [.required "id" .string, .required "vpc_id" .string,
      .withDefault "ingress" (.list FirewallRule.decoder) [],
      .withDefault "egress" (.list FirewallRule.decoder) [], .withDefault "tags" tagsDecoder ∅]
    (fun (id, vpcId, ingress, egress, tags, ()) => ⟨id, vpcId, ingress, egress, tags⟩)

def toJson (ruleset : FirewallRuleset) : Json :=
  .object
    [("id", .string ruleset.id), ("vpc_id", .string ruleset.vpcId),
      ("ingress", .array (ruleset.ingress.map FirewallRule.toJson)),
      ("egress", .array (ruleset.egress.map FirewallRule.toJson)),
      ("tags", textMapJson ruleset.tags)]

end FirewallRuleset

/-! ## Compute -/

namespace ClusterStatus

def decoder : Decoder ClusterStatus :=
  .variant ⟨[("ACTIVE", .active), ("INACTIVE", .inactive)], some .unknown⟩

def name : ClusterStatus → String
  | .active => "ACTIVE"
  | .inactive => "INACTIVE"
  | .unknown => "UNKNOWN"

end ClusterStatus

namespace Cluster

def decoder : Decoder Cluster :=
  .record "Cluster"
    [.required "cluster_arn" .string, .required "cluster_name" .string,
      .required "status" ClusterStatus.decoder, .withDefault "tags" tagsDecoder ∅]
    (fun (arn, name, status, tags, ()) => ⟨arn, name, status, tags⟩)

def toJson (cluster : Cluster) : Json :=
  .object
    [("cluster_arn", .string cluster.arn), ("cluster_name", .string cluster.name),
      ("status", .string cluster.status.name), ("tags", textMapJson cluster.tags)]

end Cluster

namespace ContainerDefinition

def decoder : Decoder ContainerDefinition :=
  .record "ContainerDefinition"
    [.required "id" .string, .required "image" .string, .required "cpu" .uint32,
      .required "memory" .uint32, .withDefault "entry_point" (.list .string) [],
      .withDefault "environment" (.sortedMap .string) ∅, .required "task_role_id" .string,
      .withDefault "tags" tagsDecoder ∅]
    (fun (id, image, cpu, memory, entryPoint, environment, taskRoleId, tags, ()) =>
      ⟨id, image, cpu, memory, entryPoint, environment, taskRoleId, tags⟩)

def toJson (definition : ContainerDefinition) : Json :=
  .object
    [("id", .string definition.id), ("image", .string definition.image),
      ("cpu", .ofNat definition.cpu.toNat), ("memory", .ofNat definition.memory.toNat),
      ("entry_point", .strings definition.entryPoint),
      ("environment", textMapJson definition.environment),
      ("task_role_id", .string definition.taskRoleId), ("tags", textMapJson definition.tags)]

end ContainerDefinition

namespace IamRole

def decoder : Decoder IamRole :=
  .record "IamRole"
    [.required "role_id" .string,
      .withDefault "attached_policy_contents" (.sortedMap Decoder.json) ∅]
    (fun (id, policies, ()) => ⟨id, policies⟩)

def toJson (role : IamRole) : Json :=
  .object
    [("role_id", .string role.id),
      ("attached_policy_contents", (SortedJson.object role.policies).json)]

end IamRole

namespace LogGroup

def decoder : Decoder LogGroup :=
  .record "LogGroup" [.required "log_group_name" .string] (fun (name, ()) => ⟨name⟩)

def toJson (group : LogGroup) : Json := .object [("log_group_name", .string group.name)]

end LogGroup

namespace ContainerStatus

def decoder : Decoder ContainerStatus :=
  .variant
    ⟨[("UNKNOWN", .unknown), ("STARTED", .started), ("COMPLETED", .completed),
      ("FAILED", .failed)], none⟩

def name : ContainerStatus → String
  | .unknown => "UNKNOWN"
  | .started => "STARTED"
  | .completed => "COMPLETED"
  | .failed => "FAILED"

end ContainerStatus

namespace ContainerInstance

def decoder : Decoder ContainerInstance :=
  .record "ContainerInstance"
    [.required "instance_id" .string, .optional "ip_address" .string,
      .required "status" ContainerStatus.decoder, .optional "exit_code" .int32]
    (fun (id, address, status, exitCode, ()) => ⟨id, address, status, exitCode⟩)

def toJson (container : ContainerInstance) : Json :=
  .object
    (("instance_id", .string container.id) ::
      Json.optionalMember "ip_address" (container.address.map .string) ++
      ("status", .string container.status.name) ::
      Json.optionalMember "exit_code" (container.exitCode.map (fun code => .ofInt code.toInt)))

end ContainerInstance

/-! ## Environments and inventories -/

namespace EnvironmentNetwork

def decoder : Decoder EnvironmentNetwork :=
  .record "PceNetwork"
    [.optional "vpc" Vpc.decoder, .withDefault "subnets" (.list Subnet.decoder) [],
      .optional "route_table" RouteTable.decoder, .optional "vpc_peering" VpcPeering.decoder,
      .withDefault "firewall_rulesets" (.list FirewallRuleset.decoder) []]
    (fun (vpc, subnets, routeTable, peering, rulesets, ()) =>
      ⟨vpc, subnets, routeTable, peering, rulesets⟩)

def toJson (network : EnvironmentNetwork) : Json :=
  .object
    [("vpc", (network.vpc.map Vpc.toJson).getD .null),
      ("subnets", .array (network.subnets.map Subnet.toJson)),
      ("route_table", (network.routeTable.map RouteTable.toJson).getD .null),
      ("vpc_peering", (network.peering.map VpcPeering.toJson).getD .null),
      ("firewall_rulesets", .array (network.firewallRulesets.map FirewallRuleset.toJson))]

end EnvironmentNetwork

namespace EnvironmentCompute

def decoder : Decoder EnvironmentCompute :=
  .record "PceCompute"
    [.optional "cluster" Cluster.decoder,
      .optional "container_definition" ContainerDefinition.decoder]
    (fun (cluster, definition, ()) => ⟨cluster, definition⟩)

def toJson (compute : EnvironmentCompute) : Json :=
  .object
    [("cluster", (compute.cluster.map Cluster.toJson).getD .null),
      ("container_definition",
        (compute.containerDefinition.map ContainerDefinition.toJson).getD .null)]

end EnvironmentCompute

namespace Environment

def decoder : Decoder Environment :=
  .record "Pce"
    [.required "pce_id" .string, .required "region" .string,
      .withDefault "pce_network" EnvironmentNetwork.decoder .empty,
      .withDefault "pce_compute" EnvironmentCompute.decoder .empty]
    (fun (id, region, network, compute, ()) => ⟨id, region, network, compute⟩)

def toJson (environment : Environment) : Json :=
  .object
    [("pce_id", .string environment.id), ("region", .string environment.region),
      ("pce_network", environment.network.toJson), ("pce_compute", environment.compute.toJson)]

end Environment

namespace CloudInventory

def decoder : Decoder CloudInventory :=
  .record "CloudInventory"
    [.required "region" .string, .withDefault "availability_zones" (.list .string) [],
      .withDefault "vpcs" (.list Vpc.decoder) [], .withDefault "subnets" (.list Subnet.decoder) [],
      .withDefault "route_tables" (.list RouteTable.decoder) [],
      .withDefault "firewall_rulesets" (.list FirewallRuleset.decoder) [],
      .withDefault "vpc_peerings" (.list VpcPeering.decoder) [],
      .withDefault "clusters" (.list Cluster.decoder) [],
      .withDefault "container_definitions" (.list ContainerDefinition.decoder) [],
      .withDefault "roles" (.list IamRole.decoder) [],
      .withDefault "log_groups" (.list LogGroup.decoder) [],
      .withDefault "task_log_groups" (.sortedMap .string) ∅]
    (fun (region, zones, vpcs, subnets, tables, rulesets, peerings, clusters, definitions, roles,
        groups, taskGroups, ()) =>
      ⟨region, zones, vpcs, subnets, tables, rulesets, peerings, clusters, definitions, roles,
        groups, taskGroups⟩)

def toJson (inventory : CloudInventory) : Json :=
  .object
    [("region", .string inventory.region),
      ("availability_zones", .strings inventory.availabilityZones),
      ("vpcs", .array (inventory.vpcs.map Vpc.toJson)),
      ("subnets", .array (inventory.subnets.map Subnet.toJson)),
      ("route_tables", .array (inventory.routeTables.map RouteTable.toJson)),
      ("firewall_rulesets", .array (inventory.firewallRulesets.map FirewallRuleset.toJson)),
      ("vpc_peerings", .array (inventory.vpcPeerings.map VpcPeering.toJson)),
      ("clusters", .array (inventory.clusters.map Cluster.toJson)),
      ("container_definitions",
        .array (inventory.containerDefinitions.map ContainerDefinition.toJson)),
      ("roles", .array (inventory.roles.map IamRole.toJson)),
      ("log_groups", .array (inventory.logGroups.map LogGroup.toJson)),
      ("task_log_groups", textMapJson inventory.taskLogGroups)]

def ofText (text : String) : GatewayResult CloudInventory :=
  match decoder.ofText text with
  | .ok inventory => .ok inventory
  | .error fault => .error (.json fault)

end CloudInventory

end PrivateComputation
