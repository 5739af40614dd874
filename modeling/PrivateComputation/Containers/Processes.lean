/-!
Machines on which the processes of containers run.
-/

namespace PrivateComputation

inductive ProcessStatus where
  | running
  | ended (exitCode : Option Int32)
  /-- The machine cannot tell. -/
  | unknown
  deriving DecidableEq

class ProcessHost (π : Type) where
  start : (shell command : String) → π → Except String Nat × π
  check : (process : Nat) → π → ProcessStatus × π
  kill : (process : Nat) → π → π
  /-- Microseconds that have passed. -/
  now : π → Nat
  pause : π → π
  freshId : π → String × π

end PrivateComputation
