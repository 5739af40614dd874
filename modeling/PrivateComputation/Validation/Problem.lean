import PrivateComputation.Cloud.Network

/-!
What a validation step can find wrong, what can be done about it, and the words for both.
-/

namespace PrivateComputation

structure PortRange where
  rulesetId : String
  ruleCidr : String
  fromPort : UInt16
  toPort : UInt16
  expectedFrom : UInt16
  expectedTo : UInt16
  deriving DecidableEq

inductive Problem where
  | vpcMissing
  | vpcWithoutCidr (vpcId : String)
  | vpcCidrUnreadable (vpcId cidr : String)
  | vpcOutsideBase (vpcId cidr base : String)
  | peeringMissing
  | peeringPending (peeringId : String)
  | peeringUnacceptable (peeringId : String) (status : PeeringStatus)
  | firewallMissing (vpcId : String)
  | routeTableMissing
  | peerNotAdmitted (peerCidr vpcId : String)
  | portsTooNarrow (range : PortRange)
  | portsTooWide (range : PortRange)
  | noPeeringRoute (tableId : String)
  | noInternetRoute (tableId : String)
  | internetRouteInactive (tableId gatewayId : String)
  | zonesDiffer (region : String) (used : List String)
  | definitionMissing
  | cpuDiffers (value expected : UInt32)
  | memoryDiffers (value expected : UInt32)
  | imageDiffers (value expected : String)
  | noPolicies (roleId : String)
  | noTaskPolicy (roleId : String) (attached : List String)
  | extraPolicies (roleId : String) (extra : List String)
  | loggingNotConfigured (definitionId : String)
  | logGroupMissing (name : String)
  deriving DecidableEq

def commaList (texts : List String) : String := ", ".intercalate texts

def portSpan (first last : UInt16) : String := toString first ++ "-" ++ toString last

def PortRange.describe (range : PortRange) : String :=
  "Ingress rule " ++ range.ruleCidr ++ " in firewall ruleset " ++ range.rulesetId ++
    " allows ports " ++ portSpan range.fromPort range.toPort

def Problem.text : Problem → String
  | .vpcMissing => "VPC is not set"
  | .vpcWithoutCidr vpcId => "VPC " ++ vpcId ++ " has no CIDR block"
  | .vpcCidrUnreadable vpcId cidr =>
      "VPC " ++ vpcId ++ " has an invalid CIDR block '" ++ cidr ++ "'"
  | .vpcOutsideBase vpcId cidr base =>
      "VPC " ++ vpcId ++ " CIDR " ++ cidr ++ " is not a private network within " ++ base
  | .peeringMissing => "VPC peering connection is not set"
  | .peeringPending peeringId =>
      "VPC peering connection " ++ peeringId ++ " is pending acceptance"
  | .peeringUnacceptable peeringId status =>
      "VPC peering connection " ++ peeringId ++ " is in an unacceptable state: " ++ status.name
  | .firewallMissing vpcId => "No firewall rulesets found in VPC " ++ vpcId
  | .routeTableMissing => "Route table is not set"
  | .peerNotAdmitted peerCidr vpcId =>
      "No ingress rule in VPC " ++ vpcId ++ " overlaps the peer route " ++ peerCidr
  | .portsTooNarrow range =>
      range.describe ++ ", which cannot contain expected range " ++
        portSpan range.expectedFrom range.expectedTo
  | .portsTooWide range =>
      range.describe ++ ", which exceeds expected range " ++
        portSpan range.expectedFrom range.expectedTo
  | .noPeeringRoute tableId => "Route table " ++ tableId ++ " has no active VPC peering route"
  | .noInternetRoute tableId =>
      "Route table " ++ tableId ++ " has no internet gateway route for 0.0.0.0/0"
  | .internetRouteInactive tableId gatewayId =>
      "Internet gateway route " ++ gatewayId ++ " in route table " ++ tableId ++ " is not active"
  | .zonesDiffer region used =>
      "Subnets must cover every availability zone in " ++ region ++ "; zones in use: " ++
        (if used.isEmpty then "none" else commaList used)
  | .definitionMissing => "Container definition is not set"
  | .cpuDiffers value expected =>
      "CPU is " ++ toString value ++ ", expected " ++ toString expected
  | .memoryDiffers value expected =>
      "Memory is " ++ toString value ++ " MiB, expected " ++ toString expected ++ " MiB"
  | .imageDiffers value expected => "Image is " ++ value ++ ", expected " ++ expected
  | .noPolicies roleId => "No policies are attached to task role " ++ roleId
  | .noTaskPolicy roleId attached =>
      "Task role " ++ roleId ++ " has no policy matching the expected task policy; attached: " ++
        commaList attached
  | .extraPolicies roleId extra =>
      "Task role " ++ roleId ++ " has policies attached besides the task policy: " ++
        commaList extra
  | .loggingNotConfigured definitionId =>
      "Logging is not configured in task definition " ++ definitionId
  | .logGroupMissing name => "Logs not found: log group " ++ name ++ " does not exist"

inductive Remedy where
  | recreateVpc (base : String)
  | acceptPeering
  | createPeering
  | recreatePeering
  | addIngress (peerCidr : String) (fromPort toPort : UInt16)
  | setPorts (range : PortRange)
  | addPeeringRoute
  | addInternetRoute
  | activateInternetRoute (gatewayId : String)
  | addZones (missing : List String)
  | removeZones (extra : List String)
  | attachTaskPolicy (roleId : String)
  | detachPolicies (roleId : String) (extra : List String)
  | configureLogging
  | createLogGroup (name : String)
  deriving DecidableEq

def Remedy.text : Remedy → String
  | .recreateVpc base => "Recreate the VPC with a private CIDR block inside " ++ base
  | .acceptPeering => "Accept the pending VPC peering request"
  | .createPeering => "Create a VPC peering connection with the other party and accept it"
  | .recreatePeering => "Delete the VPC peering connection and request a new one"
  | .addIngress peerCidr fromPort toPort =>
      "Add an ingress rule for " ++ peerCidr ++ " on ports " ++ portSpan fromPort toPort
  | .setPorts range =>
      "Set the port range of ingress rule " ++ range.ruleCidr ++ " in " ++ range.rulesetId ++
        " to " ++ portSpan range.expectedFrom range.expectedTo
  | .addPeeringRoute =>
      "Add a route to the other party's VPC CIDR through the peering connection"
  | .addInternetRoute => "Add a route for 0.0.0.0/0 through the VPC's internet gateway"
  | .activateInternetRoute gatewayId =>
      "Reattach internet gateway " ++ gatewayId ++ " to the VPC so its route becomes active"
  | .addZones missing => "Add subnets in availability zones: " ++ commaList missing
  | .removeZones extra =>
      "Remove subnets in availability zones outside the region: " ++ commaList extra
  | .attachTaskPolicy roleId => "Attach the standard task policy to role " ++ roleId
  | .detachPolicies roleId extra => "Detach " ++ commaList extra ++ " from role " ++ roleId
  | .configureLogging => "Add an awslogs log configuration to the task definition"
  | .createLogGroup name => "Create log group " ++ name

end PrivateComputation
