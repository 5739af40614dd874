/-!
Interrupts of a running workflow: the first asks to cancel it, the second to leave at once.
-/

namespace PrivateComputation

inductive InterruptAction where
  | cancelWorkflow
  | immediateExit
  | ignore
  deriving DecidableEq

structure Interrupts where
  cancelRequested : Bool
  exitRequested : Bool
  count : UInt8
  runId : Option String
  deriving DecidableEq

namespace Interrupts

def none : Interrupts := ⟨false, false, 0, .none⟩

def receive (interrupts : Interrupts) : InterruptAction × Interrupts :=
  let counted := { interrupts with count := interrupts.count + 1 }
  if interrupts.count = 0 then (.cancelWorkflow, { counted with cancelRequested := true })
  else if interrupts.count = 1 then (.immediateExit, { counted with exitRequested := true })
  else (.ignore, counted)

end Interrupts

end PrivateComputation
