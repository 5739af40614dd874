import PrivateComputation.Text.Whitespace
import PrivateComputation.Validation.Standards
import PrivateComputation.Validation.Step
import PrivateComputation.Workflow.Command

/-!
The settings that a configuration stands for.
-/

namespace PrivateComputation

inductive SettingsFault where
  | shape (cause : JsonFault)
  | parameter (cause : ValidationFault)
  | emptyRegion
  | pollInterval
  deriving DecidableEq

/-- Milliseconds between two polls are at most ten minutes. -/
def maxPollInterval : Nat := 600000

def SettingsFault.message : SettingsFault → String
  | .shape cause => cause.message
  | .parameter cause => cause.message
  | .emptyRegion => "region must not be empty"
  | .pollInterval => "owdl.poll_interval_ms must be in (0, " ++ toString maxPollInterval ++ "]"

structure WorkflowSettings where
  runner : String
  /-- Milliseconds between two polls. -/
  pollInterval : UInt64
  stateDirectory : String
  deriving DecidableEq

structure Settings where
  role : ComputationRole
  region : String
  skipped : List ValidationStep
  standards : Standards
  workflow : WorkflowSettings

structure WrittenSettings where
  role : String
  region : String
  skipped : List String
  standards : Standards
  workflow : WorkflowSettings

namespace WrittenSettings

/-- The standards in a configuration; the task policy is always the default. -/
def standardsDecoder : Decoder Standards :=
  .record "StandardsTree"
    [.required "publisher_vpc_cidr" .string, .required "partner_vpc_cidr" .string,
      .required "firewall_from_port" .uint16, .required "firewall_to_port" .uint16,
      .required "container_cpu" .uint32, .required "container_memory" .uint32,
      .required "container_image" .string]
    (fun (publisherCidr, partnerCidr, fromPort, toPort, cpu, memory, image, ()) =>
      ⟨publisherCidr, partnerCidr, fromPort, toPort, cpu, memory, image,
        Standards.defaultTaskPolicy⟩)

def workflowDecoder : Decoder WorkflowSettings :=
  .record "OwdlTree"
    [.required "runner" .string, .required "poll_interval_ms" .uint64,
      .required "state_dir" .string]
    (fun (runner, pollInterval, stateDirectory, ()) => ⟨runner, pollInterval, stateDirectory⟩)

def decoder : Decoder WrittenSettings :=
  .record "ConfigTree"
    [.required "role" .string, .required "region" .string,
      .required "skip_steps" (.list .string), .required "standards" standardsDecoder,
      .required "owdl" workflowDecoder]
    (fun (role, region, skipped, standards, workflow, ()) =>
      ⟨role, region, skipped, standards, workflow⟩)

def check (written : WrittenSettings) : Except SettingsFault Settings := do
  let role ← (ComputationRole.ofName written.role).mapError .parameter
  if written.region.toList.all isBlank then .error .emptyRegion
  else
    let skipped ← (ValidationStep.ofNames written.skipped).mapError .parameter
    written.standards.validate.mapError .parameter
    let interval := written.workflow.pollInterval
    if interval = 0 ∨ maxPollInterval < interval.toNat then .error .pollInterval
    else .ok ⟨role, written.region, skipped, written.standards, written.workflow⟩

end WrittenSettings

namespace Settings

def ofJson (json : Json) : Except SettingsFault Settings := do
  let written ← (WrittenSettings.decoder.ofJson json).mapError .shape
  written.check

def defaults : SortedJson :=
  let standards := Standards.default
  let owdl : SortedMap SortedJson := .ofList
    [("poll_interval_ms", .ofNat 5000), ("runner", .string defaultRunner),
      ("state_dir", .string ".pce/state")]
  let expected : SortedMap SortedJson := .ofList
    [("container_cpu", .ofNat standards.containerCpu.toNat),
      ("container_image", .string standards.containerImage),
      ("container_memory", .ofNat standards.containerMemory.toNat),
      ("firewall_from_port", .ofNat standards.firewallFromPort.toNat),
      ("firewall_to_port", .ofNat standards.firewallToPort.toNat),
      ("partner_vpc_cidr", .string standards.partnerVpcCidr),
      ("publisher_vpc_cidr", .string standards.publisherVpcCidr)]
  .object (.ofList
    [("owdl", .object owdl), ("region", .string "us-west-2"),
      ("role", .string ComputationRole.publisher.name), ("skip_steps", .array []),
      ("standards", .object expected)])

end Settings

end PrivateComputation
