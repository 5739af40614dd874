import PrivateComputation.Cloud.Container

/-!
Services that launch containers, report on them and stop them.
-/

namespace PrivateComputation

inductive ContainerFault where
  | dispatch (definition message : String)
  | notFound (id : String)
  | poll (message : String)
  | cancel (id message : String)
  deriving DecidableEq

def ContainerFault.message : ContainerFault → String
  | .dispatch definition message =>
      "Failed to dispatch containers from " ++ definition ++ ": " ++ message
  | .notFound id => "Container " ++ id ++ " not found"
  | .poll message => "Failed to poll containers: " ++ message
  | .cancel id message => "Failed to cancel container " ++ id ++ ": " ++ message

/-- A container service with a state of some type. Every operation takes the state it finds to the
state it leaves. -/
class ContainerService (σ : Type) where
  create : (definition : String) → (commands : List String) → (timeout : Option UInt32) → σ →
    Except ContainerFault (List ContainerInstance) × σ
  /-- The containers with some ids, as they are now; none where an id is not known. -/
  poll : (ids : List String) → σ → Except ContainerFault (List (Option ContainerInstance)) × σ
  /-- Asks containers to stop; each request may fail. -/
  cancel : (ids : List String) → σ → List (Option ContainerFault) × σ
  pause : σ → σ

end PrivateComputation
