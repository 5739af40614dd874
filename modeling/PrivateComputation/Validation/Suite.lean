import PrivateComputation.Validation.ComputeChecks
import PrivateComputation.Validation.NetworkChecks

/-!
A validation suite runs the steps on an environment. Findings are data; only a cloud interface that
does not answer stops a run.
-/

namespace PrivateComputation

structure ValidationSuite where
  role : ComputationRole
  standards : Standards
  gateways : Gateways

namespace ValidationSuite

def standard (role : ComputationRole) (gateways : Gateways) : ValidationSuite :=
  ⟨role, .default, gateways⟩

def withStandards (role : ComputationRole) (standards : Standards) (gateways : Gateways) :
    ValidationResult ValidationSuite := do
  standards.validate
  .ok ⟨role, standards, gateways⟩

def verdict (suite : ValidationSuite) (step : ValidationStep) (environment : Environment) :
    GatewayResult Verdict :=
  match step with
  | .vpcCidr => .ok (checkVpcCidr suite.standards suite.role environment)
  | .vpcPeering => checkVpcPeering suite.gateways suite.role environment
  | .firewall => .ok (checkFirewall suite.standards environment)
  | .routeTable => .ok (checkRouteTable environment)
  | .subnets => checkSubnets suite.gateways environment
  | .clusterDefinition => .ok (checkClusterDefinition suite.standards environment)
  | .iamRoles => checkIamRoles suite.gateways suite.standards environment
  | .logGroup => checkLogGroup suite.gateways environment

def check (suite : ValidationSuite) (environment : Environment) (step : ValidationStep) :
    GatewayResult Finding :=
  (suite.verdict step environment).map (·.finding step)

/-- Runs every step that is not skipped, in order, and keeps the findings that are no success. -/
def run (suite : ValidationSuite) (environment : Environment) (skipped : List ValidationStep) :
    GatewayResult (List Finding) := do
  let findings ←
    (ValidationStep.all.filter (fun step => !skipped.contains step)).mapM (suite.check environment)
  .ok (findings.filter (fun finding => !finding.isSuccess))

end ValidationSuite

end PrivateComputation
