import PrivateComputation.Validation.Role

/-!
The standards that environments are checked against.
-/

namespace PrivateComputation

structure Standards where
  publisherVpcCidr : String
  partnerVpcCidr : String
  firewallFromPort : UInt16
  firewallToPort : UInt16
  containerCpu : UInt32
  containerMemory : UInt32
  containerImage : String
  taskPolicy : SortedJson

namespace Standards

def defaultTaskPolicy : SortedJson :=
  let statement : SortedMap SortedJson := .ofList
    [("Action", .strings ["s3:GetObject", "s3:PutObject", "s3:ListBucket"]),
      ("Effect", .string "Allow"), ("Resource", .strings ["*"])]
  .object (.ofList
    [("Statement", .array [.object statement]), ("Version", .string "2012-10-17")])

def default : Standards where
  publisherVpcCidr := "10.0.0.0/16"
  partnerVpcCidr := "10.1.0.0/16"
  firewallFromPort := 5000
  firewallToPort := 15500
  containerCpu := 4096
  containerMemory := 30720
  containerImage := "onedocker/pce-worker:latest"
  taskPolicy := defaultTaskPolicy

def baseCidr (standards : Standards) : ComputationRole → String
  | .partner => standards.partnerVpcCidr
  | .publisher => standards.publisherVpcCidr

def readBlock (text : String) : ValidationResult AddressBlock :=
  (AddressBlock.ofText text).mapError (.invalidBlock text)

def validate (standards : Standards) : ValidationResult Unit := do
  let _ ← readBlock standards.publisherVpcCidr
  let _ ← readBlock standards.partnerVpcCidr
  if standards.firewallToPort < standards.firewallFromPort then
    .error (.invalidStandards
      (.emptyPortBand standards.firewallFromPort standards.firewallToPort))
  else if standards.containerCpu = 0 ∨ standards.containerMemory = 0 then
    .error (.invalidStandards .noComputePower)
  else .ok ()

def decoder : Decoder Standards :=
  .record "ValidationStandards"
    [.required "publisher_vpc_cidr" .string, .required "partner_vpc_cidr" .string,
      .required "firewall_from_port" .uint16, .required "firewall_to_port" .uint16,
      .required "container_cpu" .uint32, .required "container_memory" .uint32,
      .required "container_image" .string, .required "task_policy" Decoder.json]
    (fun (publisherCidr, partnerCidr, fromPort, toPort, cpu, memory, image, policy, ()) =>
      ⟨publisherCidr, partnerCidr, fromPort, toPort, cpu, memory, image, policy⟩)

def toJson (standards : Standards) : Json :=
  .object
    [("publisher_vpc_cidr", .string standards.publisherVpcCidr),
      ("partner_vpc_cidr", .string standards.partnerVpcCidr),
      ("firewall_from_port", .ofNat standards.firewallFromPort.toNat),
      ("firewall_to_port", .ofNat standards.firewallToPort.toNat),
      ("container_cpu", .ofNat standards.containerCpu.toNat),
      ("container_memory", .ofNat standards.containerMemory.toNat),
      ("container_image", .string standards.containerImage),
      ("task_policy", standards.taskPolicy.json)]

end Standards

end PrivateComputation
