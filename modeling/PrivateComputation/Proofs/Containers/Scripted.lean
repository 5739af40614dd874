import PrivateComputation.Containers.Scripted
import PrivateComputation.Workflow.Session

/-!
What becomes of the containers of a scripted service: one that has ended stays as it is, whatever is
launched, polled, stopped or scripted later.
-/

namespace PrivateComputation

namespace ScriptedContainers

structure Consistent (service : ScriptedContainers) : Prop where
  named : ∀ id container, service.containers.get? id = some container → container.id = id
  numbered : ∀ id container, service.containers.get? id = some container →
    ∃ number, number ≤ service.launches ∧ id = "mock-" ++ toString number
  faultless : service.plan = .none

structure Evolves (before after : ScriptedContainers) : Prop where
  known : ∀ id container, before.containers.get? id = some container →
    ∃ later, after.containers.get? id = some later ∧
      (container.status.isTerminal = true → later = container)
  cancelled : ∀ id ∈ before.cancelled, id ∈ after.cancelled
  forgotten : ∀ id ∈ before.forgotten, id ∈ after.forgotten

/-- A service of which at most the script was changed. -/
structure Rescripted (before after : ScriptedContainers) : Prop where
  containers : after.containers = before.containers
  launches : after.launches = before.launches
  cancelled : after.cancelled = before.cancelled
  plan : after.plan = before.plan
  forgotten : ∀ id ∈ before.forgotten, id ∈ after.forgotten

theorem consistent_fresh : fresh.Consistent where
  named := by
    intro id container found
    cases found
  numbered := by
    intro id container found
    cases found
  faultless := rfl

theorem Evolves.refl (service : ScriptedContainers) : service.Evolves service where
  known := fun _ container found => ⟨container, found, fun _ => rfl⟩
  cancelled := fun _ member => member
  forgotten := fun _ member => member

theorem Evolves.trans {first second third : ScriptedContainers} (left : first.Evolves second)
    (right : second.Evolves third) : first.Evolves third where
  known := by
    intro id container found
    obtain ⟨later, foundLater, keptLater⟩ := left.known id container found
    obtain ⟨last, foundLast, keptLast⟩ := right.known id later foundLater
    refine ⟨last, foundLast, ?_⟩
    intro terminal
    have same := keptLater terminal
    rw [same] at keptLast
    exact keptLast terminal
  cancelled := fun id member => right.cancelled id (left.cancelled id member)
  forgotten := fun id member => right.forgotten id (left.forgotten id member)

/-! ## Scripts -/

section Scripts

variable {before after : ScriptedContainers}

theorem Rescripted.evolves (scripted : before.Rescripted after) : before.Evolves after where
  known := by
    intro id container found
    exact ⟨container, scripted.containers ▸ found, fun _ => rfl⟩
  cancelled := by
    intro id member
    rw [scripted.cancelled]
    exact member
  forgotten := scripted.forgotten

theorem Rescripted.consistent (scripted : before.Rescripted after)
    (consistent : before.Consistent) : after.Consistent where
  named := by
    rw [scripted.containers]
    exact consistent.named
  numbered := by
    rw [scripted.containers, scripted.launches]
    exact consistent.numbered
  faultless := scripted.plan.trans consistent.faultless

theorem Rescripted.trans {first second third : ScriptedContainers}
    (left : first.Rescripted second) (right : second.Rescripted third) :
    first.Rescripted third :=
  ⟨right.containers.trans left.containers, right.launches.trans left.launches,
    right.cancelled.trans left.cancelled, right.plan.trans left.plan,
    fun id member => right.forgotten id (left.forgotten id member)⟩

theorem rescripted_setDefault (service : ScriptedContainers) (status : ContainerStatus) :
    service.Rescripted (service.setDefault status) :=
  ⟨rfl, rfl, rfl, rfl, fun _ member => member⟩

theorem rescripted_setStatus (service : ScriptedContainers) (id : String)
    (status : ContainerStatus) : service.Rescripted (service.setStatus id status) :=
  ⟨rfl, rfl, rfl, rfl, fun _ member => member⟩

end Scripts

/-! ## Changes of single containers -/

def withContainer (service : ScriptedContainers) (id : String) (container : ContainerInstance) :
    ScriptedContainers :=
  { service with containers := service.containers.insert id container }

theorem evolves_withContainer {service : ScriptedContainers} {id : String}
    {container changed : ContainerInstance}
    (found : service.containers.get? id = some container)
    (kept : container.status.isTerminal = true → changed = container) :
    service.Evolves (service.withContainer id changed) := by
  refine ⟨?_, fun _ member => member, fun _ member => member⟩
  intro name other foundOther
  by_cases same : name = id
  · subst same
    cases found.symm.trans foundOther
    exact ⟨changed, SortedMap.get?_insert_self _ _ _, kept⟩
  · exact ⟨other, (SortedMap.get?_insert_of_ne _ same _).trans foundOther, fun _ => rfl⟩

theorem consistent_withContainer {service : ScriptedContainers} {id : String}
    {container changed : ContainerInstance} (consistent : service.Consistent)
    (found : service.containers.get? id = some container) (sameId : changed.id = container.id) :
    (service.withContainer id changed).Consistent := by
  have own := consistent.named id container found
  have number := consistent.numbered id container found
  refine ⟨?_, ?_, consistent.faultless⟩
  · intro name other foundOther
    rw [withContainer, SortedMap.get?_insert] at foundOther
    split at foundOther
    next same =>
      cases foundOther
      rw [sameId, own, same]
    next => exact consistent.named name other foundOther
  · intro name other foundOther
    rw [withContainer, SortedMap.get?_insert] at foundOther
    split at foundOther
    next same => exact same ▸ number
    next => exact consistent.numbered name other foundOther

/-! ## Launches -/

theorem number_of_id {first second : Nat}
    (same : "mock-" ++ toString first = "mock-" ++ toString second) : first = second := by
  have digits : first.repr = second.repr := (String.append_right_inj _).mp same
  have value := @Nat.ofDigitChars_ten_toDigits first
  rw [← Nat.toList_repr, digits, Nat.toList_repr, Nat.ofDigitChars_ten_toDigits] at value
  exact value.symm

theorem launched_fresh {service : ScriptedContainers} (consistent : service.Consistent) :
    service.containers.get? ("mock-" ++ toString (service.launches + 1)) = none := by
  cases found : service.containers.get? ("mock-" ++ toString (service.launches + 1)) with
  | none => rfl
  | some container =>
      obtain ⟨number, small, same⟩ := consistent.numbered _ container found
      have equal := number_of_id same
      omega

theorem launch_spec {service : ScriptedContainers} (consistent : service.Consistent) :
    service.launch.2.Consistent ∧ service.Evolves service.launch.2 ∧
      service.launch.1.status = .started ∧
      service.launch.2.containers.get? service.launch.1.id = some service.launch.1 := by
  have unused := launched_fresh consistent
  refine ⟨⟨?_, ?_, consistent.faultless⟩, ⟨?_, fun _ member => member, fun _ member => member⟩,
    rfl, SortedMap.get?_insert_self _ _ _⟩
  · intro id container found
    simp only [launch, SortedMap.get?_insert] at found
    split at found
    next same =>
      cases found
      exact same.symm
    next => exact consistent.named id container found
  · intro id container found
    simp only [launch, SortedMap.get?_insert] at found ⊢
    split at found
    next same => exact ⟨service.launches + 1, by omega, same⟩
    next =>
      obtain ⟨number, small, same⟩ := consistent.numbered id container found
      exact ⟨number, by omega, same⟩
  · intro id container found
    refine ⟨container, ?_, fun _ => rfl⟩
    have other : id ≠ "mock-" ++ toString (service.launches + 1) := by
      rintro rfl
      rw [unused] at found
      cases found
    exact (SortedMap.get?_insert_of_ne _ other _).trans found

theorem launchAll_spec (commands : List String) {service : ScriptedContainers}
    (consistent : service.Consistent) :
    (launchAll commands service).2.Consistent ∧ service.Evolves (launchAll commands service).2 ∧
      ∀ container ∈ (launchAll commands service).1, container.status = .started ∧
        ∃ there, (launchAll commands service).2.containers.get? container.id = some there := by
  induction commands generalizing service with
  | nil => exact ⟨consistent, .refl service, by simp [launchAll]⟩
  | cons command commands ih =>
      obtain ⟨first, evolves, started, found⟩ := launch_spec consistent
      obtain ⟨last, further, others⟩ := ih first
      refine ⟨last, evolves.trans further, ?_⟩
      intro container member
      rcases List.mem_cons.mp member with rfl | later
      · obtain ⟨there, known, _⟩ := further.known _ _ found
        exact ⟨started, there, known⟩
      · exact others container later

/-! ## Polls -/

/-- A container that has ended at the service or was asked to stop. -/
def Released (service : ScriptedContainers) (id : String) : Prop :=
  (∃ container, service.containers.get? id = some container ∧
      container.status.isTerminal = true) ∨
    id ∈ service.cancelled

instance (service : ScriptedContainers) (id : String) : Decidable (service.Released id) :=
  decidable_of_iff
    ((service.containers.get? id).any (fun container => container.status.isTerminal) = true ∨
      id ∈ service.cancelled)
    (by simp only [Released, Option.any_eq_true])

def Lost (service : ScriptedContainers) (id : String) : Prop :=
  (∃ container, service.containers.get? id = some container ∧ container.status = .failed) ∨
    id ∈ service.forgotten

structure Vouches (service : ScriptedContainers) (record : ContainerInstance) : Prop where
  known : ∃ container, service.containers.get? record.id = some container
  completed : record.status = .completed → ∃ container,
    service.containers.get? record.id = some container ∧ container.status.isTerminal = true
  failed : record.status = .failed → service.Lost record.id

section Evolution

variable {before after : ScriptedContainers}

theorem Lost.evolves {id : String} (lost : before.Lost id) (evolves : before.Evolves after) :
    after.Lost id := by
  rcases lost with ⟨container, found, failed⟩ | gone
  · obtain ⟨later, foundLater, kept⟩ := evolves.known id container found
    have same : later = container := kept (by rw [failed]; rfl)
    exact .inl ⟨later, foundLater, by rw [same]; exact failed⟩
  · exact .inr (evolves.forgotten id gone)

theorem Vouches.evolves {record : ContainerInstance} (vouches : before.Vouches record)
    (evolves : before.Evolves after) : after.Vouches record where
  known := by
    obtain ⟨container, found⟩ := vouches.known
    obtain ⟨later, foundLater, _⟩ := evolves.known record.id container found
    exact ⟨later, foundLater⟩
  completed := by
    intro completed
    obtain ⟨container, found, terminal⟩ := vouches.completed completed
    obtain ⟨later, foundLater, kept⟩ := evolves.known record.id container found
    exact ⟨later, foundLater, by rw [kept terminal]; exact terminal⟩
  failed := fun failed => (vouches.failed failed).evolves evolves

end Evolution

theorem pollOne_spec {service : ScriptedContainers} (consistent : service.Consistent)
    (record : ContainerInstance)
    (known : ∃ container, service.containers.get? record.id = some container) :
    (service.pollOne record.id).2.Consistent ∧ service.Evolves (service.pollOne record.id).2 ∧
      (service.pollOne record.id).2.Vouches
        ((service.pollOne record.id).1.getD { record with status := .failed }) := by
  obtain ⟨container, found⟩ := known
  unfold pollOne
  split
  next gone =>
    refine ⟨consistent, .refl service, ⟨⟨container, found⟩, ?_, ?_⟩⟩
    · intro completed
      cases completed
    · intro _
      exact .inr (List.contains_iff_mem.mp gone)
  next =>
    simp only [found]
    have own := consistent.named record.id container found
    generalize shape : (if container.status.isTerminal = true then container else
      resolve container ((service.scripted.get? record.id).getD service.defaultStatus)) = polled
    have sameId : polled.id = container.id := by
      rw [← shape]
      split <;> rfl
    have kept : container.status.isTerminal = true → polled = container := by
      intro terminal
      rw [← shape, if_pos terminal]
    have name : polled.id = record.id := sameId.trans own
    have there : (service.withContainer record.id polled).containers.get? polled.id =
        some polled := by
      rw [name]
      exact SortedMap.get?_insert_self _ _ _
    refine ⟨consistent_withContainer consistent found sameId, evolves_withContainer found kept,
      ⟨⟨polled, there⟩, ?_, ?_⟩⟩
    · intro completed
      exact ⟨polled, there, by rw [show polled.status = .completed from completed]; rfl⟩
    · intro failed
      exact .inl ⟨polled, there, failed⟩

theorem pollAll_spec (records : List ContainerInstance) {service : ScriptedContainers}
    (consistent : service.Consistent)
    (known : ∀ record ∈ records, ∃ container,
      service.containers.get? record.id = some container) :
    (pollAll (records.map ContainerInstance.id) service).2.Consistent ∧
      service.Evolves (pollAll (records.map ContainerInstance.id) service).2 ∧
      ∀ record ∈ Session.takeAnswers records
          (pollAll (records.map ContainerInstance.id) service).1,
        (pollAll (records.map ContainerInstance.id) service).2.Vouches record := by
  induction records generalizing service with
  | nil => exact ⟨consistent, .refl service, by simp [pollAll, Session.takeAnswers]⟩
  | cons record records ih =>
      obtain ⟨first, evolves, vouches⟩ :=
        pollOne_spec consistent record (known record List.mem_cons_self)
      have stillKnown : ∀ other ∈ records, ∃ container,
          (service.pollOne record.id).2.containers.get? other.id = some container := by
        intro other member
        obtain ⟨container, found⟩ := known other (List.mem_cons_of_mem _ member)
        obtain ⟨later, foundLater, _⟩ := evolves.known other.id container found
        exact ⟨later, foundLater⟩
      obtain ⟨last, further, others⟩ := ih first stillKnown
      refine ⟨last, evolves.trans further, ?_⟩
      intro other member
      rcases List.mem_cons.mp member with rfl | later
      · exact vouches.evolves further
      · exact others other later

/-! ## Stops -/

def noted (service : ScriptedContainers) (id : String) : ScriptedContainers :=
  { service with cancelled := service.cancelled ++ [id] }

theorem noted_spec {service : ScriptedContainers} (consistent : service.Consistent)
    (id : String) :
    (service.noted id).Consistent ∧ service.Evolves (service.noted id) ∧
      id ∈ (service.noted id).cancelled := by
  refine ⟨⟨consistent.named, consistent.numbered, consistent.faultless⟩,
    ⟨(Evolves.refl service).known, ?_, fun _ member => member⟩, by simp [noted]⟩
  intro other member
  exact List.mem_append_left _ member

theorem stop_spec {service : ScriptedContainers} (consistent : service.Consistent)
    (id : String) :
    (service.stop id).2.Consistent ∧ service.Evolves (service.stop id).2 ∧
      id ∈ (service.stop id).2.cancelled := by
  obtain ⟨first, evolves, asked⟩ := noted_spec consistent id
  have stays : (service.noted id).Consistent ∧ service.Evolves (service.noted id) ∧
      id ∈ (service.noted id).cancelled := ⟨first, evolves, asked⟩
  unfold stop
  dsimp only
  split
  · exact stays
  · cases found : service.containers.get? id with
    | none => exact stays
    | some container =>
        dsimp only
        generalize shape : (if container.status.isTerminal = true then container else
          { container with status := .failed }) = stopped
        have sameId : stopped.id = container.id := by
          rw [← shape]
          split <;> rfl
        have kept : container.status.isTerminal = true → stopped = container := by
          intro terminal
          rw [← shape, if_pos terminal]
        exact ⟨consistent_withContainer first found sameId,
          evolves.trans (evolves_withContainer found kept), asked⟩

theorem stopAll_spec (ids : List String) {service : ScriptedContainers}
    (consistent : service.Consistent) :
    (stopAll ids service).2.Consistent ∧ service.Evolves (stopAll ids service).2 ∧
      ∀ id ∈ ids, id ∈ (stopAll ids service).2.cancelled := by
  induction ids generalizing service with
  | nil => exact ⟨consistent, .refl service, by simp⟩
  | cons id ids ih =>
      obtain ⟨first, evolves, asked⟩ := stop_spec consistent id
      obtain ⟨last, further, others⟩ := ih first
      refine ⟨last, evolves.trans further, ?_⟩
      intro other member
      rcases List.mem_cons.mp member with rfl | later
      · exact further.cancelled _ asked
      · exact others other later

/-! ## Calls -/

theorem check_faultless {service : ScriptedContainers} (consistent : service.Consistent)
    (operation : ContainerOperation) : service.check operation = (none, service) := by
  have planned : service.plan.check operation = (none, service.plan) := by
    rw [consistent.faultless]
    cases operation <;> rfl
  rw [check, planned]

theorem create_spec {service : ScriptedContainers} (consistent : service.Consistent)
    (definition : String) (commands : List String) :
    ∃ containers, (create definition commands service).1 = .ok containers ∧
      (create definition commands service).2.Consistent ∧
      service.Evolves (create definition commands service).2 ∧
      ∀ container ∈ containers, container.status = .started ∧
        ∃ there, (create definition commands service).2.containers.get? container.id =
          some there := by
  have counted : ({ service with created := service.created ++ [commands] } :
      ScriptedContainers).Consistent :=
    ⟨consistent.named, consistent.numbered, consistent.faultless⟩
  have same : service.Evolves { service with created := service.created ++ [commands] } :=
    ⟨(Evolves.refl service).known, fun _ member => member, fun _ member => member⟩
  obtain ⟨last, evolves, started⟩ := launchAll_spec commands counted
  rw [create, check_faultless consistent]
  exact ⟨_, rfl, last, same.trans evolves, started⟩

theorem poll_spec {service : ScriptedContainers} (consistent : service.Consistent)
    (records : List ContainerInstance)
    (known : ∀ record ∈ records, ∃ container,
      service.containers.get? record.id = some container) :
    ∃ answers, (poll (records.map ContainerInstance.id) service).1 = .ok answers ∧
      (poll (records.map ContainerInstance.id) service).2.Consistent ∧
      service.Evolves (poll (records.map ContainerInstance.id) service).2 ∧
      ∀ record ∈ Session.takeAnswers records answers,
        (poll (records.map ContainerInstance.id) service).2.Vouches record := by
  obtain ⟨last, evolves, vouches⟩ := pollAll_spec records consistent known
  rw [poll, check_faultless consistent]
  exact ⟨_, rfl, last, evolves, vouches⟩

theorem cancel_spec {service : ScriptedContainers} (consistent : service.Consistent)
    (ids : List String) :
    (cancel ids service).2.Consistent ∧ service.Evolves (cancel ids service).2 ∧
      ∀ id ∈ ids, id ∈ (cancel ids service).2.cancelled := by
  rw [cancel, check_faultless consistent]
  exact stopAll_spec ids consistent

end ScriptedContainers

end PrivateComputation
