import PrivateComputation.Proofs.Containers.Scripted

/-!
What a scripted service writes down of its calls: the commands of each launch and the ids of the
containers that it was asked to stop; and the ids that it gives to containers.
-/

namespace PrivateComputation

def NamedContainers (containers : SortedMap ContainerInstance) : Prop :=
  ∀ id container, containers.get? id = some container → container.id = id

theorem NamedContainers.insert {containers : SortedMap ContainerInstance}
    (named : NamedContainers containers) {id : String} {container : ContainerInstance}
    (own : container.id = id) : NamedContainers (containers.insert id container) := by
  intro name other found
  rw [SortedMap.get?_insert] at found
  split at found
  next same =>
    cases found
    rw [own, same]
  next => exact named name other found

namespace ScriptedContainers

/-- A service that stops every container it is asked to stop. -/
structure Orderly (service : ScriptedContainers) : Prop where
  named : NamedContainers service.containers
  stops : service.plan.cancel = none

/-- A service that was set up anew: at most the script changed and the plan of failures, but no
failing cancellation was planned. -/
structure Reconfigured (before after : ScriptedContainers) : Prop where
  containers : after.containers = before.containers
  launches : after.launches = before.launches
  created : after.created = before.created
  cancelled : after.cancelled = before.cancelled
  stops : before.plan.cancel = none → after.plan.cancel = none

structure SameLedger (before after : ScriptedContainers) : Prop where
  launches : after.launches = before.launches
  created : after.created = before.created
  cancelled : after.cancelled = before.cancelled

theorem SameLedger.trans {first second third : ScriptedContainers}
    (left : first.SameLedger second) (right : second.SameLedger third) :
    first.SameLedger third :=
  ⟨right.launches.trans left.launches, right.created.trans left.created,
    right.cancelled.trans left.cancelled⟩

theorem orderly_fresh : fresh.Orderly where
  named := by
    intro id container found
    cases found
  stops := rfl

theorem Orderly.reconfigured {before after : ScriptedContainers} (orderly : before.Orderly)
    (change : before.Reconfigured after) : after.Orderly where
  named := by
    rw [change.containers]
    exact orderly.named
  stops := change.stops orderly.stops

theorem Reconfigured.sameLedger {before after : ScriptedContainers}
    (change : before.Reconfigured after) : before.SameLedger after :=
  ⟨change.launches, change.created, change.cancelled⟩

theorem check_spec {service : ScriptedContainers} (orderly : service.Orderly)
    (operation : ContainerOperation) :
    (service.check operation).2.Orderly ∧ service.SameLedger (service.check operation).2 := by
  refine ⟨⟨orderly.named, ?_⟩, ⟨rfl, rfl, rfl⟩⟩
  have stops := orderly.stops
  cases operation with
  | create | get =>
      simp only [check, FailurePlan.check, FailurePlan.failure?]
      split
      · exact stops
      · exact stops
  | cancel => simp [check, FailurePlan.check, FailurePlan.failure?, stops]

theorem check_cancel {service : ScriptedContainers} (orderly : service.Orderly) :
    service.check .cancel = (none, service) := by
  simp [check, FailurePlan.check, FailurePlan.failure?, orderly.stops]

/-! ## Launches -/

def launchedIds (service : ScriptedContainers) : List String :=
  (List.range service.launches).map (fun index => "mock-" ++ toString (index + 1))

theorem nodup_launchedIds (service : ScriptedContainers) : service.launchedIds.Nodup := by
  refine List.Pairwise.map _ ?_ List.nodup_range
  intro first second different same
  exact different (Nat.succ.inj (number_of_id same))

theorem launchedIds_launch (service : ScriptedContainers) :
    service.launch.2.launchedIds = service.launchedIds ++ [service.launch.1.id] := by
  simp only [launchedIds, launch, List.range_succ, List.map_append, List.map_cons, List.map_nil]

theorem launchAll_ledger (commands : List String) {service : ScriptedContainers}
    (orderly : service.Orderly) :
    (launchAll commands service).2.Orderly ∧
      (launchAll commands service).2.launchedIds =
        service.launchedIds ++ (launchAll commands service).1.map ContainerInstance.id ∧
      (launchAll commands service).1.length = commands.length ∧
      (launchAll commands service).2.created = service.created ∧
      (launchAll commands service).2.cancelled = service.cancelled := by
  induction commands generalizing service with
  | nil => exact ⟨orderly, (List.append_nil _).symm, rfl, rfl, rfl⟩
  | cons command commands ih =>
      have first : service.launch.2.Orderly := ⟨orderly.named.insert rfl, orderly.stops⟩
      obtain ⟨last, ids, length, created, cancelled⟩ := ih first
      refine ⟨last, ?_, congrArg Nat.succ length, created, cancelled⟩
      change (launchAll commands service.launch.2).2.launchedIds = _
      rw [ids, launchedIds_launch, List.append_assoc]
      rfl

/-! ## Polls -/

theorem pollOne_ledger {service : ScriptedContainers} (orderly : service.Orderly)
    (record : ContainerInstance) :
    (service.pollOne record.id).2.Orderly ∧
      service.SameLedger (service.pollOne record.id).2 ∧
      ((service.pollOne record.id).1.getD { record with status := .failed }).id = record.id := by
  unfold pollOne
  split
  · exact ⟨orderly, ⟨rfl, rfl, rfl⟩, rfl⟩
  · cases found : service.containers.get? record.id with
    | none => exact ⟨orderly, ⟨rfl, rfl, rfl⟩, rfl⟩
    | some container =>
        dsimp only
        have own := orderly.named record.id container found
        have same : (if container.status.isTerminal = true then container else
            resolve container
              ((service.scripted.get? record.id).getD service.defaultStatus)).id = record.id := by
          split
          · exact own
          · exact own
        exact ⟨⟨orderly.named.insert same, orderly.stops⟩, ⟨rfl, rfl, rfl⟩, same⟩

theorem pollAll_ledger (records : List ContainerInstance) {service : ScriptedContainers}
    (orderly : service.Orderly) :
    (pollAll (records.map ContainerInstance.id) service).2.Orderly ∧
      service.SameLedger (pollAll (records.map ContainerInstance.id) service).2 ∧
      (Session.takeAnswers records
          (pollAll (records.map ContainerInstance.id) service).1).map ContainerInstance.id =
        records.map ContainerInstance.id := by
  induction records generalizing service with
  | nil => exact ⟨orderly, ⟨rfl, rfl, rfl⟩, rfl⟩
  | cons record records ih =>
      obtain ⟨first, same, id⟩ := pollOne_ledger orderly record
      obtain ⟨last, still, ids⟩ := ih first
      exact ⟨last, same.trans still, List.cons_eq_cons.mpr ⟨id, ids⟩⟩

/-! ## Stops -/

theorem stop_ledger {service : ScriptedContainers} (orderly : service.Orderly) (id : String) :
    (service.stop id).2.Orderly ∧ (service.stop id).2.launches = service.launches ∧
      (service.stop id).2.created = service.created ∧
      (service.stop id).2.cancelled = service.cancelled ++ [id] := by
  have noted : (service.noted id).Orderly := ⟨orderly.named, orderly.stops⟩
  unfold stop
  dsimp only
  split
  · exact ⟨noted, rfl, rfl, rfl⟩
  · cases found : service.containers.get? id with
    | none => exact ⟨noted, rfl, rfl, rfl⟩
    | some container =>
        dsimp only
        have own := orderly.named id container found
        have same : (if container.status.isTerminal = true then container else
            { container with status := .failed }).id = id := by
          split
          · exact own
          · exact own
        exact ⟨⟨orderly.named.insert same, orderly.stops⟩, rfl, rfl, rfl⟩

theorem stopAll_ledger (ids : List String) {service : ScriptedContainers}
    (orderly : service.Orderly) :
    (stopAll ids service).2.Orderly ∧ (stopAll ids service).2.launches = service.launches ∧
      (stopAll ids service).2.created = service.created ∧
      (stopAll ids service).2.cancelled = service.cancelled ++ ids := by
  induction ids generalizing service with
  | nil => exact ⟨orderly, rfl, rfl, (List.append_nil _).symm⟩
  | cons id ids ih =>
      obtain ⟨first, launches, created, cancelled⟩ := stop_ledger orderly id
      obtain ⟨last, stillLaunches, stillCreated, more⟩ := ih first
      refine ⟨last, stillLaunches.trans launches, stillCreated.trans created, ?_⟩
      change (stopAll ids (service.stop id).2).2.cancelled = _
      rw [more, cancelled, List.append_assoc]
      rfl

/-! ## Calls -/

theorem create_ledger {service : ScriptedContainers} (orderly : service.Orderly)
    (definition : String) (commands : List String) :
    let outcome := create definition commands service
    outcome.2.Orderly ∧
      outcome.2.created =
        service.created ++ (if outcome.1.toOption.isSome then [commands] else []) ∧
      outcome.2.launchedIds =
        service.launchedIds ++ (outcome.1.toOption.getD []).map ContainerInstance.id ∧
      outcome.2.cancelled = service.cancelled ∧
      ∀ containers, outcome.1.toOption = some containers →
        containers.length = commands.length := by
  obtain ⟨checked, same⟩ := check_spec orderly .create
  have before : (service.check .create).2.launchedIds = service.launchedIds := by
    rw [launchedIds, launchedIds, same.launches]
  unfold create
  generalize service.check .create = outcome at checked same before
  obtain ⟨_ | message, after⟩ := outcome
  · have counted : ({ after with created := after.created ++ [commands] } :
        ScriptedContainers).Orderly := ⟨checked.named, checked.stops⟩
    obtain ⟨last, ids, length, created, cancelled⟩ := launchAll_ledger commands counted
    refine ⟨last, created.trans (congrArg (· ++ [commands]) same.created),
      ids.trans (congrArg (· ++ _) before), cancelled.trans same.cancelled, ?_⟩
    rintro containers ⟨⟩
    exact length
  · refine ⟨checked, same.created.trans (List.append_nil _).symm,
      before.trans (List.append_nil _).symm, same.cancelled, ?_⟩
    rintro containers ⟨⟩

theorem poll_ledger {service : ScriptedContainers} (orderly : service.Orderly)
    (records : List ContainerInstance) :
    (poll (records.map ContainerInstance.id) service).2.Orderly ∧
      service.SameLedger (poll (records.map ContainerInstance.id) service).2 ∧
      ∀ answers, (poll (records.map ContainerInstance.id) service).1 = .ok answers →
        (Session.takeAnswers records answers).map ContainerInstance.id =
          records.map ContainerInstance.id := by
  obtain ⟨checked, same⟩ := check_spec orderly .get
  unfold poll
  generalize service.check .get = outcome at checked same
  obtain ⟨_ | message, after⟩ := outcome
  · obtain ⟨last, still, ids⟩ := pollAll_ledger records checked
    refine ⟨last, same.trans still, ?_⟩
    rintro answers ⟨⟩
    exact ids
  · refine ⟨checked, same, ?_⟩
    rintro answers ⟨⟩

theorem cancel_ledger {service : ScriptedContainers} (orderly : service.Orderly)
    (ids : List String) :
    (cancel ids service).2.Orderly ∧ (cancel ids service).2.launches = service.launches ∧
      (cancel ids service).2.created = service.created ∧
      (cancel ids service).2.cancelled = service.cancelled ++ ids := by
  rw [cancel, check_cancel orderly]
  exact stopAll_ledger ids orderly

end ScriptedContainers

end PrivateComputation
