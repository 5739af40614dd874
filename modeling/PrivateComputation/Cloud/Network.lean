import PrivateComputation.Cloud.Tags

/-!
Network resources: virtual private clouds, subnets, route tables, peering connections and firewall
rules.
-/

namespace PrivateComputation

structure Vpc where
  id : String
  cidr : String
  tags : Tags
  deriving DecidableEq

instance : Tagged Vpc := ⟨Vpc.tags⟩

structure Subnet where
  id : String
  vpcId : String
  zone : String
  tags : Tags
  deriving DecidableEq

instance : Tagged Subnet := ⟨Subnet.tags⟩

inductive RouteTargetKind where
  | internet
  | vpcPeering
  | other
  deriving DecidableEq

structure RouteTarget where
  id : String
  kind : RouteTargetKind
  deriving DecidableEq

inductive RouteState where
  | active
  | blackhole
  | unknown
  deriving DecidableEq

structure Route where
  destination : String
  target : RouteTarget
  state : RouteState
  deriving DecidableEq

def Route.isPeering (route : Route) : Bool := route.target.kind == .vpcPeering

def Route.isActivePeering (route : Route) : Bool := route.isPeering && route.state == .active

structure RouteTable where
  id : String
  vpcId : String
  routes : List Route
  tags : Tags
  deriving DecidableEq

instance : Tagged RouteTable := ⟨RouteTable.tags⟩

inductive PeeringStatus where
  | active
  | pendingAcceptance
  | rejected
  | notReady
  | unknown
  deriving DecidableEq

def PeeringStatus.name : PeeringStatus → String
  | .active => "ACTIVE"
  | .pendingAcceptance => "PENDING_ACCEPTANCE"
  | .rejected => "REJECTED"
  | .notReady => "NOT_READY"
  | .unknown => "UNKNOWN"

inductive PeeringRole where
  | requester
  | accepter
  deriving DecidableEq

structure VpcPeering where
  id : String
  status : PeeringStatus
  role : PeeringRole
  requesterVpcId : String
  accepterVpcId : String
  requesterVpcCidr : Option String
  accepterVpcCidr : Option String
  tags : Tags
  deriving DecidableEq

instance : Tagged VpcPeering := ⟨VpcPeering.tags⟩

def VpcPeering.involves (peering : VpcPeering) (vpcId : String) : Bool :=
  peering.requesterVpcId == vpcId || peering.accepterVpcId == vpcId

structure FirewallRule where
  fromPort : UInt16
  toPort : UInt16
  protocol : String
  cidr : String
  deriving DecidableEq

structure FirewallRuleset where
  id : String
  vpcId : String
  ingress : List FirewallRule
  egress : List FirewallRule
  tags : Tags
  deriving DecidableEq

instance : Tagged FirewallRuleset := ⟨FirewallRuleset.tags⟩

end PrivateComputation
