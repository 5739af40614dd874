import PrivateComputation.Cloud.Environment
import PrivateComputation.Validation.Finding
import PrivateComputation.Validation.Standards

/-!
The steps that look at the network of an environment: its address block, its peering connection,
its firewall, its route table and its zones.
-/

namespace PrivateComputation

/-! ## Address block -/

def checkVpcCidr (standards : Standards) (role : ComputationRole) (environment : Environment) :
    Verdict :=
  match environment.network.vpc with
  | none => .failed [.vpcMissing] []
  | some vpc =>
      let base := standards.baseCidr role
      match AddressBlock.ofText vpc.cidr, AddressBlock.ofText base with
      | .ok block, .ok baseBlock =>
          if isPrivateAddress block.network && block.isWithin baseBlock then .passed
          else .failed [.vpcOutsideBase vpc.id vpc.cidr base] [.recreateVpc base]
      | _, _ => .failed [.vpcCidrUnreadable vpc.id vpc.cidr] [.recreateVpc base]

/-! ## Peering connection -/

/-- The connection to judge: a partner has its own on record, a publisher is asked for the one that
it accepted. -/
def judgedPeering (gateways : Gateways) (role : ComputationRole) (environment : Environment) :
    GatewayResult (Option VpcPeering) :=
  match role, environment.network.vpc with
  | .partner, _ => .ok environment.network.peering
  | .publisher, some vpc => do
      let peerings ← gateways.describeVpcPeerings vpc.id
      .ok (peerings.find? (fun peering => peering.accepterVpcId == vpc.id))
  | .publisher, none => .ok none

def judgePeering : Option VpcPeering → Verdict
  | none => .failed [.peeringMissing] [.createPeering]
  | some peering =>
      match peering.status with
      | .active => .passed
      | .pendingAcceptance => .warned [.peeringPending peering.id] [.acceptPeering]
      | .rejected | .notReady | .unknown =>
          .failed [.peeringUnacceptable peering.id peering.status] [.recreatePeering]

def checkVpcPeering (gateways : Gateways) (role : ComputationRole) (environment : Environment) :
    GatewayResult Verdict :=
  (judgedPeering gateways role environment).map judgePeering

/-! ## Firewall -/

def ruleMeetsRoute (rule : FirewallRule) (route : Route) : Bool :=
  match AddressBlock.ofText route.destination, AddressBlock.ofText rule.cidr with
  | .ok peer, .ok admitted => peer.overlaps admitted
  | _, _ => false

def portRange (standards : Standards) (ruleset : FirewallRuleset) (rule : FirewallRule) :
    PortRange where
  rulesetId := ruleset.id
  ruleCidr := rule.cidr
  fromPort := rule.fromPort
  toPort := rule.toPort
  expectedFrom := standards.firewallFromPort
  expectedTo := standards.firewallToPort

def PortRange.isTooNarrow (range : PortRange) : Bool :=
  range.expectedFrom < range.fromPort || range.toPort < range.expectedTo

def PortRange.isTooWide (range : PortRange) : Bool :=
  range.fromPort < range.expectedFrom || range.expectedTo < range.toPort

def meetingRanges (standards : Standards) (rulesets : List FirewallRuleset) (route : Route) :
    List PortRange :=
  rulesets.flatMap (fun ruleset =>
    (ruleset.ingress.filter (ruleMeetsRoute · route)).map (portRange standards ruleset))

def routeFailings (standards : Standards) (vpc : Vpc) (rulesets : List FirewallRuleset)
    (route : Route) : List (Problem × Remedy) :=
  let ranges := meetingRanges standards rulesets route
  (ranges.filter PortRange.isTooNarrow).map
      (fun range => (.portsTooNarrow range, .setPorts range)) ++
    if ranges.isEmpty then
      [(.peerNotAdmitted route.destination vpc.id,
        .addIngress route.destination standards.firewallFromPort standards.firewallToPort)]
    else []

def routeWarnings (standards : Standards) (rulesets : List FirewallRuleset) (route : Route) :
    List Problem :=
  ((meetingRanges standards rulesets route).filter
    (fun range => !range.isTooNarrow && range.isTooWide)).map .portsTooWide

/-- Every route to a peer is met by ingress rules, all of which admit the band of ports. -/
def checkFirewall (standards : Standards) (environment : Environment) : Verdict :=
  let network := environment.network
  match network.vpc with
  | none => .failed [.vpcMissing] []
  | some vpc =>
      if vpc.cidr = "" then .failed [.vpcWithoutCidr vpc.id] []
      else if network.firewallRulesets.isEmpty then .failed [.firewallMissing vpc.id] []
      else match network.routeTable with
        | none => .failed [.routeTableMissing] []
        | some table =>
            let peerRoutes := table.routes.filter Route.isPeering
            let failings :=
              peerRoutes.flatMap (routeFailings standards vpc network.firewallRulesets)
            let warnings := peerRoutes.flatMap (routeWarnings standards network.firewallRulesets)
            .ofProblems (failings.map Prod.fst) (failings.map Prod.snd) warnings

/-! ## Route table -/

def Route.isInternet (route : Route) : Bool :=
  "igw-".toList.isPrefixOf route.target.id.toList && route.destination == "0.0.0.0/0"

/-- There are an active route to a peer and an active route to the internet. -/
def checkRouteTable (environment : Environment) : Verdict :=
  match environment.network.routeTable with
  | none => .failed [.routeTableMissing] []
  | some table =>
      if !table.routes.any Route.isActivePeering then
        .failed [.noPeeringRoute table.id] [.addPeeringRoute]
      else match table.routes.find? Route.isInternet with
        | none => .failed [.noInternetRoute table.id] [.addInternetRoute]
        | some route =>
            if route.state = .active then .passed
            else
              .failed [.internetRouteInactive table.id route.target.id]
                [.activateInternetRoute route.target.id]

/-! ## Subnets -/

def distinctSorted (texts : List String) : List String :=
  (SortedMap.ofList (texts.map (fun text => (text, ())))).keys

def judgeZones (region : String) (used zones : List String) : Verdict :=
  let used := distinctSorted used
  let zones := distinctSorted zones
  if used = zones then .passed
  else
    let missing := zones.filter (fun zone => !used.contains zone)
    let extra := used.filter (fun zone => !zones.contains zone)
    .failed [.zonesDiffer region used]
      [if missing.isEmpty then .removeZones extra else .addZones missing]

/-- The subnets are in exactly the zones of the region. -/
def checkSubnets (gateways : Gateways) (environment : Environment) : GatewayResult Verdict := do
  let zones ← gateways.describeAvailabilityZones
  .ok (judgeZones environment.region (environment.network.subnets.map Subnet.zone) zones)

end PrivateComputation
