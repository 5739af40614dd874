import PrivateComputation.Cloud.AddressBlock
import PrivateComputation.Cloud.Inventory

/-!
Why a validation cannot be carried out: a bad parameter, or a cloud interface that does not answer.
-/

namespace PrivateComputation

inductive StandardsFlaw where
  | emptyPortBand (first last : UInt16)
  | noComputePower
  deriving DecidableEq

def StandardsFlaw.message : StandardsFlaw → String
  | .emptyPortBand first last =>
      "firewall port band " ++ toString first ++ "-" ++ toString last ++ " is empty"
  | .noComputePower => "container cpu and memory must be positive"

inductive ValidationFault where
  | unknownStep (name : String)
  | unknownRole (name : String)
  | invalidBlock (text : String) (reason : AddressFault)
  | invalidStandards (flaw : StandardsFlaw)
  | gateway (fault : GatewayFault)
  deriving DecidableEq

def ValidationFault.message : ValidationFault → String
  | .unknownStep name => "Unknown validation step '" ++ name ++ "'"
  | .unknownRole name => "Unknown MPC role '" ++ name ++ "'"
  | .invalidBlock text reason => "Invalid CIDR '" ++ text ++ "': " ++ reason.message
  | .invalidStandards flaw => "Invalid validation standard: " ++ flaw.message
  | .gateway fault => fault.message

abbrev ValidationResult (α : Type) := Except ValidationFault α

end PrivateComputation
