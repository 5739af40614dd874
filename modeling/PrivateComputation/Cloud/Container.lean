/-!
Handles of launched containers.
-/

namespace PrivateComputation

/-- The status of one container; unknown while it is being provisioned. -/
inductive ContainerStatus where
  | unknown
  | started
  | completed
  | failed
  deriving DecidableEq, Inhabited

def ContainerStatus.isTerminal : ContainerStatus → Bool
  | .completed => true
  | .failed => true
  | .unknown => false
  | .started => false

structure ContainerInstance where
  id : String
  address : Option String
  status : ContainerStatus
  exitCode : Option Int32
  deriving DecidableEq

end PrivateComputation
