import PrivateComputation.Cloud.Environment
import PrivateComputation.Validation.Finding
import PrivateComputation.Validation.Standards

/-!
The steps that look at the container definition of an environment: its size and image, the policies
of its role and the log group that it writes to.
-/

namespace PrivateComputation

/-- Processors and memory are as expected; a different image is only a warning. -/
def checkClusterDefinition (standards : Standards) (environment : Environment) : Verdict :=
  match environment.compute.containerDefinition with
  | none => .failed [.definitionMissing] []
  | some definition =>
      let failings : List Problem :=
        (if definition.cpu = standards.containerCpu then []
          else [.cpuDiffers definition.cpu standards.containerCpu]) ++
        (if definition.memory = standards.containerMemory then []
          else [.memoryDiffers definition.memory standards.containerMemory])
      let warnings : List Problem :=
        if definition.image = standards.containerImage then []
        else [.imageDiffers definition.image standards.containerImage]
      .ofProblems failings [] warnings

def judgePolicies (taskPolicy : SortedJson) (roleId : String) (policies : SortedMap SortedJson) :
    Verdict :=
  if policies.isEmpty then .failed [.noPolicies roleId] [.attachTaskPolicy roleId]
  else match policies.entries.find? (fun entry => entry.2 == taskPolicy) with
    | none => .failed [.noTaskPolicy roleId policies.keys] [.attachTaskPolicy roleId]
    | some (name, _) =>
        if 1 < policies.size then
          let extra := policies.keys.filter (· ≠ name)
          .warned [.extraPolicies roleId extra] [.detachPolicies roleId extra]
        else .passed

def checkIamRoles (gateways : Gateways) (standards : Standards) (environment : Environment) :
    GatewayResult Verdict :=
  match environment.compute.containerDefinition with
  | none => .ok (.failed [.definitionMissing] [])
  | some definition => do
      let role ← gateways.getPoliciesForRole definition.taskRoleId
      .ok (judgePolicies standards.taskPolicy definition.taskRoleId
        ((role.map IamRole.policies).getD ∅))

def checkLogGroup (gateways : Gateways) (environment : Environment) : GatewayResult Verdict :=
  match environment.compute.containerDefinition with
  | none => .ok (.failed [.definitionMissing] [])
  | some definition => do
      match ← gateways.extractLogGroupName definition.id with
      | none => .ok (.warned [.loggingNotConfigured definition.id] [.configureLogging])
      | some name =>
          let group ← gateways.describeLogGroup name
          if group.any (fun group => group.name ≠ "") then .ok .passed
          else .ok (.warned [.logGroupMissing name] [.createLogGroup name])

end PrivateComputation
