import PrivateComputation.Containers.Service

/-!
A container service that keeps how it was before every launch, in front of any other.
-/

namespace PrivateComputation

variable {σ : Type}

structure Observed (σ : Type) where
  service : σ
  /-- How the service was before each launch, the latest one last. -/
  beforeLaunches : List σ

namespace Observed

instance [ContainerService σ] : ContainerService (Observed σ) where
  create definition commands timeout observed :=
    let (result, service) :=
      ContainerService.create definition commands timeout observed.service
    (result, ⟨service, observed.beforeLaunches ++ [observed.service]⟩)
  poll ids observed :=
    let (result, service) := ContainerService.poll ids observed.service
    (result, { observed with service })
  cancel ids observed :=
    let (faults, service) := ContainerService.cancel ids observed.service
    (faults, { observed with service })
  pause observed := { observed with service := ContainerService.pause observed.service }

end Observed

end PrivateComputation
