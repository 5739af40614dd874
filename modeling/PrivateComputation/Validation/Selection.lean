import PrivateComputation.Cloud.Environment
import PrivateComputation.Json.Decoder
import PrivateComputation.Cloud.Inventory

/-!
Finding the resources of an environment: the first of each kind is picked, and kinds of which there
are several are reported.
-/

namespace PrivateComputation

/-- Loads the resources that carry the id of an environment; what belongs to a network other than
the picked one is left out. -/
def loadEnvironment (gateways : Gateways) (id region : String) : GatewayResult Environment := do
  let filter := TagFilter.environment id
  let vpcs ← gateways.describeVpcs filter
  let vpc := vpcs.head?
  let inVpc (vpcId : String) : Bool := vpc.all (fun vpc => vpc.id == vpcId)
  let subnets ← gateways.describeSubnets filter
  let tables ← gateways.describeRouteTables filter
  let rulesets ← gateways.describeFirewallRulesets filter
  let peering ←
    match vpc with
    | some vpc => (gateways.describeVpcPeerings vpc.id).map List.head?
    | none => .ok none
  let clusters ← gateways.describeClusters filter
  let definitions ← gateways.describeContainerDefinitions filter
  let network : EnvironmentNetwork :=
    ⟨vpc, subnets.filter (fun subnet => inVpc subnet.vpcId),
      tables.find? (fun table => inVpc table.vpcId), peering,
      rulesets.filter (fun ruleset => inVpc ruleset.vpcId)⟩
  .ok ⟨id, region, network, ⟨clusters.head?, definitions.head?⟩⟩

structure DuplicateResource where
  kind : String
  ids : String
  deriving DecidableEq

namespace DuplicateResource

def ofIds (kind : String) (ids : List String) : List DuplicateResource :=
  if 1 < ids.length then [⟨kind, ", ".intercalate ids⟩] else []

def text (duplicate : DuplicateResource) : String :=
  "Multiple " ++ duplicate.kind ++ " found: " ++ duplicate.ids

def decoder : Decoder DuplicateResource :=
  .record "DuplicatePceResource"
    [.required "resource_name_plural" .string, .required "duplicate_resource_ids" .string]
    (fun (kind, ids, ()) => ⟨kind, ids⟩)

def toJson (duplicate : DuplicateResource) : Json :=
  .object
    [("resource_name_plural", .string duplicate.kind),
      ("duplicate_resource_ids", .string duplicate.ids)]

end DuplicateResource

def findDuplicates (gateways : Gateways) (id : String) :
    GatewayResult (List DuplicateResource) := do
  let filter := TagFilter.environment id
  let vpcs ← gateways.describeVpcs filter
  let tables ← gateways.describeRouteTables filter
  let peerings ←
    match vpcs.head? with
    | some vpc => gateways.describeVpcPeerings vpc.id
    | none => .ok []
  let clusters ← gateways.describeClusters filter
  let definitions ← gateways.describeContainerDefinitions filter
  .ok (DuplicateResource.ofIds "VPCs" (vpcs.map Vpc.id) ++
    DuplicateResource.ofIds "Route Tables" (tables.map RouteTable.id) ++
    DuplicateResource.ofIds "VPC Peerings" (peerings.map VpcPeering.id) ++
    DuplicateResource.ofIds "Clusters" (clusters.map Cluster.arn) ++
    DuplicateResource.ofIds "Container Definitions" (definitions.map ContainerDefinition.id))

end PrivateComputation
