import PrivateComputation.Containers.Scripted

/-!
A scripted service beside the same one whose polls never fail: a poll that fails is the only thing
that they do differently. Planned failures come to an end, unless they are so many that the count of
calls cannot go beyond their number.
-/

namespace PrivateComputation

namespace ScriptedContainers

def unhindered (service : ScriptedContainers) : ScriptedContainers :=
  { service with plan := { service.plan with get := none } }

theorem unhindered_of_calm {service : ScriptedContainers} (calm : service.plan.get = none) :
    service.unhindered = service := by
  rw [unhindered, ← calm]

/-! ## Commuting -/

theorem launchAll_withPlan (commands : List String) (service : ScriptedContainers)
    (plan : FailurePlan) : launchAll commands { service with plan } =
      ((launchAll commands service).1, { (launchAll commands service).2 with plan }) := by
  induction commands generalizing service with
  | nil => rfl
  | cons command commands ih =>
      have others := ih service.launch.2
      simp only [launchAll]
      exact congrArg (fun outcome => (service.launch.1 :: outcome.1, outcome.2)) others

theorem launchAll_plan (commands : List String) (service : ScriptedContainers) :
    (launchAll commands service).2.plan = service.plan := by
  induction commands generalizing service with
  | nil => rfl
  | cons command commands ih => exact ih service.launch.2

theorem pollOne_withPlan (id : String) (service : ScriptedContainers) (plan : FailurePlan) :
    pollOne { service with plan } id =
      ((service.pollOne id).1, { (service.pollOne id).2 with plan }) := by
  simp only [pollOne]
  split
  · rfl
  · cases service.containers.get? id <;> rfl

theorem pollOne_plan (id : String) (service : ScriptedContainers) :
    (service.pollOne id).2.plan = service.plan := by
  simp only [pollOne]
  split
  · rfl
  · cases service.containers.get? id <;> rfl

theorem pollAll_withPlan (ids : List String) (service : ScriptedContainers) (plan : FailurePlan) :
    pollAll ids { service with plan } =
      ((pollAll ids service).1, { (pollAll ids service).2 with plan }) := by
  induction ids generalizing service with
  | nil => rfl
  | cons id ids ih =>
      have others := ih (service.pollOne id).2
      simp only [pollAll, pollOne_withPlan]
      exact congrArg (fun outcome => ((service.pollOne id).1 :: outcome.1, outcome.2)) others

theorem pollAll_plan (ids : List String) (service : ScriptedContainers) :
    (pollAll ids service).2.plan = service.plan := by
  induction ids generalizing service with
  | nil => rfl
  | cons id ids ih => exact (ih (service.pollOne id).2).trans (pollOne_plan id service)

/-! ## Calls -/

variable {service : ScriptedContainers}

theorem check_create_unhindered (service : ScriptedContainers) :
    service.unhindered.check .create =
      ((service.check .create).1, (service.check .create).2.unhindered) := by
  obtain ⟨_, _, _, _, _, _, _, ⟨planned, _, _⟩⟩ := service
  cases planned <;> rfl

theorem create_unhindered (definition : String) (commands : List String)
    (service : ScriptedContainers) :
    create definition commands service.unhindered =
      ((create definition commands service).1,
        (create definition commands service).2.unhindered) := by
  have checked := check_create_unhindered service
  simp only [create, checked]
  rcases service.check .create with ⟨_ | message, after⟩
  · have launched := launchAll_withPlan commands
      { after with created := after.created ++ [commands] } { after.plan with get := none }
    have plan := launchAll_plan commands { after with created := after.created ++ [commands] }
    refine (congrArg (fun outcome => (Except.ok outcome.1, outcome.2)) launched).trans ?_
    simp only [unhindered, plan]
  · rfl

theorem check_get_plan (service : ScriptedContainers) :
    (service.check .get).2.unhindered = service.unhindered := by
  obtain ⟨_, _, _, _, _, _, _, ⟨_, planned, _⟩⟩ := service
  cases planned <;> rfl

theorem poll_plan (ids : List String) (service : ScriptedContainers) :
    (poll ids service).2.plan = (service.check .get).2.plan := by
  simp only [poll]
  rcases service.check .get with ⟨_ | message, after⟩
  · exact pollAll_plan ids after
  · rfl

theorem poll_unhindered (ids : List String) (passes : (service.check .get).1 = none) :
    poll ids service.unhindered = ((poll ids service).1, (poll ids service).2.unhindered) := by
  have checked : service.unhindered.check .get = (none, service.unhindered) := rfl
  have same := check_get_plan service
  simp only [poll, checked]
  generalize service.check .get = outcome at passes same
  obtain ⟨failure, after⟩ := outcome
  dsimp only at passes same
  subst passes
  have polled := pollAll_withPlan ids after { after.plan with get := none }
  rw [← same]
  refine (congrArg (fun outcome => (Except.ok outcome.1, outcome.2)) polled).trans ?_
  simp only [unhindered, pollAll_plan]

theorem poll_hindered (ids : List String) {message : String}
    (fails : (service.check .get).1 = some message) :
    (poll ids service).1 = .error (.poll message) ∧
      (poll ids service).2.unhindered = service.unhindered := by
  have same := check_get_plan service
  simp only [poll]
  generalize service.check .get = outcome at fails same
  obtain ⟨failure, after⟩ := outcome
  dsimp only at fails same
  subst fails
  exact ⟨rfl, same⟩

/-! ## Counting the failures -/

def failuresAhead (service : ScriptedContainers) : Nat :=
  match service.plan.get with
  | some ⟨_, some limit, calls⟩ => limit.toNat + 1 - (calls + 1).toNat
  | _ => 0

/-- Planned failures of polls have a limit, and the count of calls goes beyond it. -/
def Temporary (service : ScriptedContainers) : Prop :=
  ∀ failure, service.plan.get = some failure →
    ∃ limit, failure.limit = some limit ∧ limit.toNat + 1 < UInt32.size

theorem failuresAhead_lt (temporary : service.Temporary) : service.failuresAhead < UInt32.size := by
  unfold failuresAhead
  split
  next message limit calls planned =>
    obtain ⟨other, same, below⟩ := temporary _ planned
    cases same
    omega
  · decide

theorem check_get_cases (temporary : service.Temporary) :
    (service.check .get).1 = none ∨
      ∃ message, (service.check .get).1 = some message ∧
        (service.check .get).2.failuresAhead < service.failuresAhead := by
  simp only [check, FailurePlan.check, FailurePlan.failure?, failuresAhead]
  cases planned : service.plan.get with
  | none => exact .inl rfl
  | some failure =>
      obtain ⟨limit, limited, below⟩ := temporary failure planned
      obtain ⟨message, _, calls⟩ := failure
      cases limited
      by_cases passes : limit < calls + 1
      · left
        simp [passes]
      · right
        have within : (calls + 1).toNat ≤ limit.toNat :=
          Nat.not_lt.mp (fun beyond => passes (UInt32.lt_iff_toNat_lt.mpr beyond))
        have counted : (calls + 1 + 1).toNat = (calls + 1).toNat + 1 := by
          have small : UInt32.size = 4294967296 := rfl
          rw [UInt32.toNat_add]
          exact Nat.mod_eq_of_lt (by rw [UInt32.toNat_one]; omega)
        refine ⟨message, by simp [passes], ?_⟩
        change limit.toNat + 1 - (calls + 1 + 1).toNat < limit.toNat + 1 - (calls + 1).toNat
        rw [counted]
        omega

theorem failuresAhead_poll (ids : List String) (service : ScriptedContainers) :
    (poll ids service).2.failuresAhead = (service.check .get).2.failuresAhead := by
  rw [failuresAhead, failuresAhead, poll_plan]

/-! ## What keeps failures temporary -/

theorem stopAll_plan (ids : List String) (service : ScriptedContainers) :
    (stopAll ids service).2.plan = service.plan := by
  induction ids generalizing service with
  | nil => rfl
  | cons id ids ih =>
      refine (ih (service.stop id).2).trans ?_
      simp only [stop]
      split
      · rfl
      · cases service.containers.get? id <;> rfl

theorem check_get_of_ne {operation : ContainerOperation} (other : operation ≠ .get)
    (service : ScriptedContainers) :
    (service.check operation).2.plan.get = service.plan.get := by
  obtain ⟨_, _, _, _, _, _, _, ⟨creating, _, cancelling⟩⟩ := service
  cases operation with
  | get => exact absurd rfl other
  | create => cases creating <;> rfl
  | cancel => cases cancelling <;> rfl

namespace Temporary

theorem of_get {after : ScriptedContainers} (temporary : service.Temporary)
    (same : after.plan.get = service.plan.get) : after.Temporary := by
  intro failure planned
  exact temporary failure (same ▸ planned)

theorem inject (service : ScriptedContainers) (message : String) {limit : UInt32}
    (below : limit.toNat + 1 < UInt32.size) :
    (service.inject .get message (some limit)).Temporary := by
  intro failure planned
  cases planned
  exact ⟨limit, rfl, below⟩

theorem create (temporary : service.Temporary) (definition : String) (commands : List String) :
    (create definition commands service).2.Temporary := by
  refine temporary.of_get ?_
  have checked := check_get_of_ne (by decide : ContainerOperation.create ≠ .get) service
  simp only [ScriptedContainers.create]
  generalize service.check .create = outcome at checked ⊢
  obtain ⟨_ | message, after⟩ := outcome
  · exact (congrArg FailurePlan.get (launchAll_plan commands _)).trans checked
  · exact checked

theorem poll (temporary : service.Temporary) (ids : List String) :
    (poll ids service).2.Temporary := by
  intro failure planned
  rw [poll_plan] at planned
  obtain ⟨_, _, _, _, _, _, _, ⟨_, before, _⟩⟩ := service
  cases before with
  | none => cases planned
  | some earlier =>
      cases planned
      exact temporary earlier rfl

theorem cancel (temporary : service.Temporary) (ids : List String) :
    (cancel ids service).2.Temporary := by
  refine temporary.of_get ?_
  have checked := check_get_of_ne (by decide : ContainerOperation.cancel ≠ .get) service
  simp only [ScriptedContainers.cancel]
  generalize service.check .cancel = outcome at checked ⊢
  obtain ⟨_ | message, after⟩ := outcome
  · exact (congrArg FailurePlan.get (stopAll_plan ids _)).trans checked
  · exact checked

end Temporary

/-! ## Failures without an end -/

/-- Polls are to fail as often as a limit can say; the count of calls cannot go beyond that. -/
def Endless (service : ScriptedContainers) (message : String) : Prop :=
  ∃ limit calls, service.plan.get = some ⟨message, some limit, calls⟩ ∧
    limit.toNat + 1 = UInt32.size

namespace Endless

variable {message : String}

theorem inject (service : ScriptedContainers) {limit : UInt32}
    (greatest : limit.toNat + 1 = UInt32.size) :
    (service.inject .get message (some limit)).Endless message :=
  ⟨limit, 0, rfl, greatest⟩

theorem poll (endless : service.Endless message) (ids : List String) :
    (poll ids service).2.Endless message := by
  obtain ⟨limit, calls, planned, greatest⟩ := endless
  refine ⟨limit, calls + 1, ?_, greatest⟩
  rw [poll_plan]
  simp only [check, FailurePlan.check, FailurePlan.failure?, planned]
  rfl

end Endless

end ScriptedContainers

end PrivateComputation
