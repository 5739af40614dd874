import PrivateComputation.Json.Decoder
import PrivateComputation.Validation.Fault

/-!
The steps of a validation, in the order in which they run.
-/

namespace PrivateComputation

inductive ValidationStep where
  | vpcCidr
  | vpcPeering
  | firewall
  | routeTable
  | subnets
  | clusterDefinition
  | iamRoles
  | logGroup
  deriving DecidableEq

namespace ValidationStep

def all : List ValidationStep :=
  [vpcCidr, vpcPeering, firewall, routeTable, subnets, clusterDefinition, iamRoles, logGroup]

theorem mem_all (step : ValidationStep) : step ∈ all := by
  cases step <;> decide

def name : ValidationStep → String
  | .vpcCidr => "vpc_cidr"
  | .vpcPeering => "vpc_peering"
  | .firewall => "firewall"
  | .routeTable => "route_table"
  | .subnets => "subnets"
  | .clusterDefinition => "cluster_definition"
  | .iamRoles => "iam_roles"
  | .logGroup => "log_group"

def ofName (text : String) : ValidationResult ValidationStep :=
  match all.find? (fun step => step.name == text) with
  | some step => .ok step
  | none => .error (.unknownStep text)

def ofNames (names : List String) : ValidationResult (List ValidationStep) := names.mapM ofName

def decoder : Decoder ValidationStep :=
  .variant ⟨all.map (fun step => (step.name, step)), none⟩

end ValidationStep

end PrivateComputation
