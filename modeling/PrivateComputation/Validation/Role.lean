import PrivateComputation.Json.Decoder
import PrivateComputation.Validation.Fault

/-!
The two sides of a computation.
-/

namespace PrivateComputation

inductive ComputationRole where
  | publisher
  | partner
  deriving DecidableEq, Inhabited

namespace ComputationRole

def name : ComputationRole → String
  | .publisher => "publisher"
  | .partner => "partner"

def ofName (text : String) : ValidationResult ComputationRole :=
  let letters := text.toList.map Char.toLower
  if letters = publisher.name.toList then .ok .publisher
  else if letters = partner.name.toList then .ok .partner
  else .error (.unknownRole text)

def decoder : Decoder ComputationRole :=
  .variant ⟨[(publisher.name, .publisher), (partner.name, .partner)], none⟩

end ComputationRole

end PrivateComputation
