import PrivateComputation.Cloud.Compute
import PrivateComputation.Cloud.Network

/-!
A private computation environment: the network and compute resources that belong to one id.
-/

namespace PrivateComputation

structure EnvironmentNetwork where
  vpc : Option Vpc
  subnets : List Subnet
  routeTable : Option RouteTable
  peering : Option VpcPeering
  firewallRulesets : List FirewallRuleset
  deriving DecidableEq

def EnvironmentNetwork.empty : EnvironmentNetwork := ⟨none, [], none, none, []⟩

structure EnvironmentCompute where
  cluster : Option Cluster
  containerDefinition : Option ContainerDefinition
  deriving DecidableEq

def EnvironmentCompute.empty : EnvironmentCompute := ⟨none, none⟩

structure Environment where
  id : String
  region : String
  network : EnvironmentNetwork
  compute : EnvironmentCompute
  deriving DecidableEq

def Environment.empty (id region : String) : Environment := ⟨id, region, .empty, .empty⟩

end PrivateComputation
