import PrivateComputation.Containers.Service

/-!
A container service that keeps a record of its calls, in front of any other.
-/

namespace PrivateComputation

variable {σ : Type}

inductive ContainerRequest where
  | create (definition : String) (commands : List String) (timeout : Option UInt32)
  | poll (ids : List String)
  | cancel (ids : List String)
  deriving DecidableEq

structure Recorded (σ : Type) where
  service : σ
  /-- All calls so far, the latest one last. -/
  requests : List ContainerRequest

namespace Recorded

def record (recorded : Recorded σ) (service : σ) (request : ContainerRequest) : Recorded σ :=
  ⟨service, recorded.requests ++ [request]⟩

instance [ContainerService σ] : ContainerService (Recorded σ) where
  create definition commands timeout recorded :=
    let (result, service) :=
      ContainerService.create definition commands timeout recorded.service
    (result, recorded.record service (.create definition commands timeout))
  poll ids recorded :=
    let (result, service) := ContainerService.poll ids recorded.service
    (result, recorded.record service (.poll ids))
  cancel ids recorded :=
    let (faults, service) := ContainerService.cancel ids recorded.service
    (faults, recorded.record service (.cancel ids))
  pause recorded := { recorded with service := ContainerService.pause recorded.service }

end Recorded

end PrivateComputation
