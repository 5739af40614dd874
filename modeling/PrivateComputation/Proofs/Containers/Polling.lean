import PrivateComputation.Proofs.Containers.Dispatch

/-!
Polling containers on the local machine: those of one launch are all known until they are launched
anew, and a poll finds one failed only if its process has failed.
-/

namespace PrivateComputation

variable {π : Type} [ProcessHost π]

namespace LocalProcess

/-- Why a process has failed when it is polled. -/
inductive FailsOn (host : π) (entry : LocalProcess) : Prop
  | ended {exitCode : Option Int32} {next : π}
      (answered : ProcessHost.check entry.process host = (.ended exitCode, next))
      (unsuccessful : exitCode ≠ some 0)
  | overdue {seconds : UInt32} {next : π}
      (answered : ProcessHost.check entry.process host = (.running, next))
      (limited : entry.timeout = some seconds)
      (late : seconds.toNat * 1000000 ≤ ProcessHost.now next - entry.started)
  | unknown {next : π} (answered : ProcessHost.check entry.process host = (.unknown, next))

structure OneOf (processes : List Nat) (timeout : Option UInt32) (id : String)
    (entry : LocalProcess) : Prop where
  listed : entry.process ∈ processes
  timeout : entry.timeout = timeout
  named : entry.container.id = id

variable {host : π} {entry : LocalProcess} {processes : List Nat} {timeout : Option UInt32}
  {id : String}

theorem OneOf.poll (one : entry.OneOf processes timeout id) (host : π) :
    (entry.poll host).1.OneOf processes timeout id := by
  obtain ⟨listed, timed, named⟩ := one
  unfold LocalProcess.poll
  split
  · exact ⟨listed, timed, named⟩
  · rcases ProcessHost.check entry.process host with ⟨status, next⟩
    cases status with
    | ended | unknown => exact ⟨listed, timed, named⟩
    | running =>
        dsimp only
        split
        · exact ⟨listed, timed, named⟩
        · exact ⟨listed, timed, named⟩

theorem failsOn_of_poll (unfailed : entry.container.status ≠ .failed)
    (failed : (entry.poll host).1.container.status = .failed) :
    entry.isFinished = false ∧ entry.FailsOn host := by
  unfold LocalProcess.poll at failed
  split at failed
  next => exact absurd failed unfailed
  next going =>
    refine ⟨Bool.eq_false_iff.mpr going, ?_⟩
    rcases answered : ProcessHost.check entry.process host with ⟨status, next⟩
    rw [answered] at failed
    cases status with
    | ended exitCode =>
        refine .ended answered ?_
        rintro rfl
        cases failed
    | unknown => exact .unknown answered
    | running =>
        dsimp only at failed
        split at failed
        next late =>
          obtain ⟨seconds, limited, elapsed⟩ := (Option.any_eq_true _ _).mp late
          exact .overdue answered limited (of_decide_eq_true elapsed)
        next => exact absurd failed unfailed

end LocalProcess

namespace LocalContainers

def Tracks (processes : List Nat) (timeout : Option UInt32) (ids : List String)
    (service : LocalContainers π) : Prop :=
  ∀ id ∈ ids, ∃ entry, service.processes.get? id = some entry ∧
    entry.OneOf processes timeout id

def NoneFailed (ids : List String) (service : LocalContainers π) : Prop :=
  ∀ id ∈ ids, ∀ entry, service.processes.get? id = some entry → entry.container.status ≠ .failed

/-- One of some processes fails when ids are polled in turn. -/
inductive FailsPolled (processes : List Nat) (timeout : Option UInt32) :
    List String → LocalContainers π → Prop
  | here {id : String} {ids : List String} {service : LocalContainers π} {entry : LocalProcess}
      (found : service.processes.get? id = some entry)
      (one : entry.OneOf processes timeout id) (going : entry.isFinished = false)
      (fails : entry.FailsOn service.host) : FailsPolled processes timeout (id :: ids) service
  | later {id : String} {ids : List String} {service : LocalContainers π}
      (others : FailsPolled processes timeout ids (service.update id LocalProcess.poll).2) :
      FailsPolled processes timeout (id :: ids) service

variable {service : LocalContainers π} {processes : List Nat} {timeout : Option UInt32}
  {ids polled : List String} {id : String} {entry : LocalProcess}

/-! ## Polls -/

omit [ProcessHost π] in
theorem update_of_get? (found : service.processes.get? id = some entry)
    (change : LocalProcess → π → LocalProcess × π) :
    service.update id change =
      (some (change entry service.host).1,
        { service with
          host := (change entry service.host).2
          processes := service.processes.insert id (change entry service.host).1 }) := by
  simp only [update, found]

theorem Tracks.update (tracks : service.Tracks processes timeout ids) (id : String) :
    (service.update id LocalProcess.poll).2.Tracks processes timeout ids := by
  cases found : service.processes.get? id with
  | none =>
      simp only [LocalContainers.update, found]
      exact tracks
  | some entry =>
      rw [update_of_get? found]
      intro name listed
      obtain ⟨other, there, one⟩ := tracks name listed
      dsimp only
      rw [SortedMap.get?_insert]
      split
      next same =>
        subst same
        cases found.symm.trans there
        exact ⟨_, rfl, one.poll service.host⟩
      next => exact ⟨other, there, one⟩

theorem pollAll_cons (found : service.processes.get? id = some entry) (ids : List String) :
    pollAll (id :: ids) service =
      (some (entry.poll service.host).1.container ::
          (pollAll ids (service.update id LocalProcess.poll).2).1,
        (pollAll ids (service.update id LocalProcess.poll).2).2) := by
  have first : (service.update id LocalProcess.poll).1 = some (entry.poll service.host).1 := by
    rw [update_of_get? found]
  simp only [pollAll, first, Option.map_some]

theorem Tracks.pollAll (tracks : service.Tracks processes timeout ids) (within : polled ⊆ ids) :
    (pollAll polled service).2.Tracks processes timeout ids ∧
      ∃ containers : List ContainerInstance, (pollAll polled service).1 = containers.map some ∧
        containers.map ContainerInstance.id = polled := by
  -- What is polled gets shorter, and what is tracked stays.
  induction polled generalizing service with
  | nil => exact ⟨tracks, [], rfl, rfl⟩
  | cons id polled ih =>
      obtain ⟨listed, others⟩ := List.cons_subset.mp within
      obtain ⟨entry, found, one⟩ := tracks id listed
      obtain ⟨still, containers, answered, named⟩ := ih (tracks.update id) others
      rw [pollAll_cons found]
      refine ⟨still, (entry.poll service.host).1.container :: containers, ?_, ?_⟩
      · rw [List.map_cons, answered]
      · rw [List.map_cons, named, (one.poll service.host).named]

theorem NoneFailed.update (unfailed : service.NoneFailed ids)
    (found : service.processes.get? id = some entry)
    (passed : (entry.poll service.host).1.container.status ≠ .failed) :
    (service.update id LocalProcess.poll).2.NoneFailed ids := by
  rw [update_of_get? found]
  intro name listed other there
  dsimp only at there
  rw [SortedMap.get?_insert] at there
  split at there
  · cases there
    exact passed
  · exact unfailed name listed other there

/-- Where no container had failed, a poll finds one failed as soon as one of the processes fails,
and only then. -/
theorem Tracks.failsPolled_or (tracks : service.Tracks processes timeout ids)
    (unfailed : service.NoneFailed ids) (within : polled ⊆ ids) :
    let outcome := LocalContainers.pollAll polled service
    (service.FailsPolled processes timeout polled ∧
        ∃ container, some container ∈ outcome.1 ∧ container.status = .failed) ∨
      outcome.2.NoneFailed ids ∧
        ∀ container, some container ∈ outcome.1 → container.status ≠ .failed := by
  induction polled generalizing service with
  | nil => exact .inr ⟨unfailed, nofun⟩
  | cons id polled ih =>
      obtain ⟨listed, others⟩ := List.cons_subset.mp within
      obtain ⟨entry, found, one⟩ := tracks id listed
      rw [pollAll_cons found]
      -- The first process fails, or the others go on with the service as the first poll leaves it.
      by_cases failed : (entry.poll service.host).1.container.status = .failed
      · obtain ⟨going, fails⟩ := LocalProcess.failsOn_of_poll (unfailed id listed entry found) failed
        exact .inl ⟨.here found one going fails, _, List.mem_cons_self, failed⟩
      · rcases ih (tracks.update id) (unfailed.update found failed) others with later | passed
        · obtain ⟨fails, container, member, failed⟩ := later
          exact .inl ⟨.later fails, container, List.mem_cons_of_mem _ member, failed⟩
        · obtain ⟨still, passed⟩ := passed
          refine .inr ⟨still, ?_⟩
          intro container member
          rcases List.mem_cons.mp member with first | later
          · rw [Option.some.inj first]
            exact failed
          · exact passed container later

/-! ## Launches -/

omit [ProcessHost π] in
theorem get?_enter_of_not_mem {launched : List LocalProcess} {tracked : SortedMap LocalProcess}
    (other : ∀ entry ∈ launched, entry.container.id ≠ id) :
    (enter tracked launched).get? id = tracked.get? id := by
  induction launched generalizing tracked with
  | nil => rfl
  | cons first launched ih =>
      obtain ⟨apart, others⟩ := List.forall_mem_cons.mp other
      change (enter (tracked.insert first.container.id first) launched).get? id = _
      rw [ih others, SortedMap.get?_insert_of_ne _ (Ne.symm apart)]

omit [ProcessHost π] in
theorem exists_get?_enter {launched : List LocalProcess} {tracked : SortedMap LocalProcess}
    (given : id ∈ launched.map (fun entry => entry.container.id)) :
    ∃ entry ∈ launched, entry.container.id = id ∧
      (enter tracked launched).get? id = some entry := by
  induction launched generalizing tracked with
  | nil => cases given
  | cons first launched ih =>
      -- The last entry that is given the id is the one that stays.
      by_cases again : id ∈ launched.map (fun entry => entry.container.id)
      · obtain ⟨entry, listed, named, found⟩ := ih again
        exact ⟨entry, List.mem_cons_of_mem _ listed, named, found⟩
      · have same : first.container.id = id := by
          rcases List.mem_cons.mp given with here | later
          · exact here.symm
          · exact absurd later again
        refine ⟨first, List.mem_cons_self, same, ?_⟩
        change (enter (tracked.insert first.container.id first) launched).get? id = _
        rw [get?_enter_of_not_mem, same, SortedMap.get?_insert_self]
        intro entry listed named
        exact again (List.mem_map.mpr ⟨entry, listed, named⟩)

theorem create_of_refuses {commands : List String} {command message : String}
    (refuses : Refuses service.shell commands service.host processes command message)
    (definition : String) (timeout : Option UInt32) :
    (create definition commands timeout service).1 = .error (.dispatch definition message) := by
  obtain ⟨starts, refused, later⟩ := refuses
  rw [create_refused starts refused]

theorem create_tracks {commands : List String} {final : π}
    (starts : Starts service.shell commands service.host processes final) (definition : String)
    (timeout : Option UInt32) :
    ∃ containers, (create definition commands timeout service).1 = .ok containers ∧
      containers.length = commands.length ∧
      (∀ container ∈ containers, container.status = .started) ∧
      let after := (create definition commands timeout service).2
      after.Tracks processes timeout (containers.map ContainerInstance.id) ∧
        after.NoneFailed (containers.map ContainerInstance.id) := by
  obtain ⟨started, numbers, created⟩ := create_started starts definition timeout
  obtain ⟨same, new⟩ := enrolAll_new timeout started final
  rw [created]
  generalize (enrolAll timeout started final).1 = launched at same new
  have own : ∀ id ∈ (launched.map LocalProcess.container).map ContainerInstance.id,
      ∃ entry ∈ launched, entry.container.id = id ∧
        (enter (service.processes.filter (fun launched => !launched.isFinished))
          launched).get? id = some entry := by
    intro id given
    rw [List.map_map] at given
    exact exists_get?_enter given
  refine ⟨launched.map LocalProcess.container, rfl, ?_, ?_, ?_, ?_⟩
  · rw [List.length_map, ← List.length_map LocalProcess.process, same, numbers, starts.length_eq]
  · intro container member
    obtain ⟨entry, listed, rfl⟩ := List.mem_map.mp member
    rw [(new entry listed).container]
  · intro id given
    obtain ⟨entry, listed, named, found⟩ := own id given
    refine ⟨entry, found, ?_, (new entry listed).timeout, named⟩
    rw [← numbers, ← same]
    exact List.mem_map_of_mem listed
  · intro id given other there
    obtain ⟨entry, listed, named, found⟩ := own id given
    cases found.symm.trans there
    rw [(new _ listed).container]
    simp

end LocalContainers

end PrivateComputation
