/-!
Plans by which the operations of a container service fail.
-/

namespace PrivateComputation

inductive ContainerOperation where
  | create
  | get
  | cancel
  deriving DecidableEq

/-- Failures of one operation: with what message, how often, and how often it was called. -/
structure PlannedFailure where
  message : String
  /-- How many calls fail; all of them if there is no limit. -/
  limit : Option UInt32
  calls : UInt32
  deriving DecidableEq

structure FailurePlan where
  create : Option PlannedFailure
  get : Option PlannedFailure
  cancel : Option PlannedFailure
  deriving DecidableEq

namespace FailurePlan

def none : FailurePlan := ⟨.none, .none, .none⟩

def failure? (plan : FailurePlan) : ContainerOperation → Option PlannedFailure
  | .create => plan.create
  | .get => plan.get
  | .cancel => plan.cancel

def withFailure (plan : FailurePlan) (failure : PlannedFailure) : ContainerOperation → FailurePlan
  | .create => { plan with create := some failure }
  | .get => { plan with get := some failure }
  | .cancel => { plan with cancel := some failure }

def inject (plan : FailurePlan) (operation : ContainerOperation) (message : String)
    (limit : Option UInt32) : FailurePlan :=
  plan.withFailure ⟨message, limit, 0⟩ operation

/-- Whether a call fails, and with what message. The program counts the calls in 32 bits, and stops
with an overflow at call `2 ^ 32`; here the count begins anew. -/
def check (plan : FailurePlan) (operation : ContainerOperation) : Option String × FailurePlan :=
  match plan.failure? operation with
  | .none => (.none, plan)
  | some failure =>
      let counted := { failure with calls := failure.calls + 1 }
      let passes := counted.limit.any (· < counted.calls)
      (if passes then .none else some failure.message, plan.withFailure counted operation)

end FailurePlan

end PrivateComputation
