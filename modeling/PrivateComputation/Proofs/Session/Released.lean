import PrivateComputation.Containers.Observed
import PrivateComputation.Proofs.Containers.Scripted
import PrivateComputation.Proofs.Session.Ended

/-!
What a session leaves running when it dispatches another state run, and when its workflow ends: only
containers of failed runs, which go on when another container of their run has failed.
-/

namespace PrivateComputation

variable {ρ : Type}

/-- Every container of a state run has ended at the service or was asked to stop; but of a failed
run, in which a container has failed or is not known to the service any more, those may go on that
had not ended then or that are not known either. -/
def StateRun.Released (service : ScriptedContainers) (stateRun : StateRun) : Prop :=
  ∀ container ∈ stateRun.containers, service.Released container.id ∨
    (stateRun.status = .failed ∧
      (container.status.isTerminal = false ∨ container.id ∈ service.forgotten) ∧
      ∃ other ∈ stateRun.containers, other.status = .failed ∧ service.Lost other.id)

structure StateRun.Tracked (service : ScriptedContainers) (stateRun : StateRun) : Prop where
  vouched : ∀ container ∈ stateRun.containers, service.Vouches container
  completed : stateRun.status = .completed →
    ∀ container ∈ stateRun.containers, container.status = .completed
  failed : stateRun.status = .failed →
    stateRun.containers = [] ∨ ∃ other ∈ stateRun.containers, other.status = .failed
  cancelled : stateRun.status = .cancelled →
    ∀ container ∈ stateRun.containers, container.id ∈ service.cancelled
  begun : stateRun.status ≠ .created

namespace StateRun

variable {service after : ScriptedContainers} {stateRun : StateRun}

theorem Tracked.evolves (tracked : stateRun.Tracked service) (evolves : service.Evolves after) :
    stateRun.Tracked after where
  vouched := fun container member => (tracked.vouched container member).evolves evolves
  completed := tracked.completed
  failed := tracked.failed
  cancelled := fun cancelled container member =>
    evolves.cancelled _ (tracked.cancelled cancelled container member)
  begun := tracked.begun

theorem tracked_ofContainers
    (vouched : ∀ container ∈ stateRun.containers, service.Vouches container)
    (status : stateRun.status = .ofContainers stateRun.containers) :
    stateRun.Tracked service := by
  unfold WorkflowStatus.ofContainers at status
  split at status
  next empty =>
    have none : stateRun.containers = [] := List.isEmpty_iff.mp empty
    exact ⟨vouched, by simp [status], fun _ => .inl none, by simp [status], by simp [status]⟩
  next =>
    split at status
    next failing =>
      obtain ⟨other, member, failed⟩ := List.any_eq_true.mp failing
      exact ⟨vouched, by simp [status], fun _ => .inr ⟨other, member, by simpa using failed⟩,
        by simp [status], by simp [status]⟩
    next noneFailed =>
      split at status
      next =>
        exact ⟨vouched, by simp [status], by simp [status], by simp [status], by simp [status]⟩
      next noneOpen =>
        refine ⟨vouched, ?_, by simp [status], by simp [status], by simp [status]⟩
        intro _ container member
        have notFailed : container.status ≠ .failed := by
          intro failed
          exact noneFailed (List.any_eq_true.mpr ⟨container, member, by simp [failed]⟩)
        have terminal : container.status.isTerminal = true := by
          by_contra unresolved
          exact noneOpen (List.any_eq_true.mpr ⟨container, member, by simpa using unresolved⟩)
        cases shape : container.status with
        | completed => rfl
        | failed => exact absurd shape notFailed
        | unknown | started =>
            rw [shape] at terminal
            cases terminal

theorem Tracked.released (tracked : stateRun.Tracked service)
    (rests : stateRun.status ≠ .started) : stateRun.Released service := by
  intro container member
  have vouches := tracked.vouched container member
  have ended : container.status = .completed → service.Released container.id := by
    intro completed
    exact .inl (vouches.completed completed)
  cases status : stateRun.status with
  | created => exact absurd status tracked.begun
  | started => exact absurd status rests
  | completed => exact .inl (ended (tracked.completed status container member))
  | cancelled => exact .inl (.inr (tracked.cancelled status container member))
  | failed =>
      rcases tracked.failed status with none | ⟨other, here, failing⟩
      · rw [none] at member
        cases member
      · have lost := (tracked.vouched other here).failed failing
        cases shape : container.status with
        | completed => exact .inl (ended shape)
        | unknown | started => exact .inr ⟨rfl, .inl rfl, other, here, failing, lost⟩
        | failed =>
            rcases vouches.failed shape with ⟨there, found, failed⟩ | gone
            · exact .inl (.inl ⟨there, found, by rw [failed]; rfl⟩)
            · exact .inr ⟨rfl, .inr gone, other, here, failing, lost⟩

end StateRun

/-! ## Sessions -/

structure Observed.Rescripted (before after : Observed ScriptedContainers) : Prop where
  service : before.service.Rescripted after.service
  beforeLaunches : after.beforeLaunches = before.beforeLaunches

namespace Session

structure Watched (session : Session (Observed ScriptedContainers) ρ) : Prop where
  consistent : session.service.service.Consistent
  tracked : ∀ stateRun ∈ session.run.history, stateRun.Tracked session.service.service
  counted : session.service.beforeLaunches.length = session.run.history.length
  released : ∀ (later earlier : Nat) (service : ScriptedContainers) (stateRun : StateRun),
    session.service.beforeLaunches[later]? = some service →
      session.run.history[earlier]? = some stateRun → earlier < later →
        stateRun.Released service

namespace Watched

variable {session : Session (Observed ScriptedContainers) ρ} {current : StateRun}

theorem launched (watched : session.Watched)
    (rests : ∀ stateRun ∈ session.run.history, stateRun.status ≠ .started) (stateName : String)
    (definition : StateDefinition) (retryNumber : UInt32) :
    (session.launched stateName definition retryNumber).Watched := by
  obtain ⟨containers, created, consistent, evolves, started⟩ :=
    ScriptedContainers.create_spec watched.consistent definition.containerDefinition
      (definition.commands session.runner)
  have service : (session.launched stateName definition retryNumber).service =
      ⟨(ScriptedContainers.create definition.containerDefinition
          (definition.commands session.runner) session.service.service).2,
        session.service.beforeLaunches ++ [session.service.service]⟩ := rfl
  have history : (session.launched stateName definition retryNumber).run.history =
      session.run.history ++
        [.launched stateName definition containers retryNumber session.now.next] := by
    have result : (ContainerService.create definition.containerDefinition
        (definition.commands session.runner) definition.timeout session.service).1 =
          .ok containers := created
    simp only [Session.launched, result]
  have vouched : ∀ container ∈ containers,
      (ScriptedContainers.create definition.containerDefinition
        (definition.commands session.runner) session.service.service).2.Vouches container := by
    intro container member
    obtain ⟨going, known⟩ := started container member
    exact ⟨known, by simp [going], by simp [going]⟩
  refine ⟨?_, ?_, ?_, ?_⟩
  · rw [service]
    exact consistent
  · rw [service, history]
    intro stateRun member
    rcases List.mem_append.mp member with old | new
    · exact (watched.tracked stateRun old).evolves evolves
    · rw [List.mem_singleton.mp new]
      exact StateRun.tracked_ofContainers vouched rfl
  · rw [service, history, List.length_append, List.length_append, watched.counted]
    rfl
  · rw [service, history]
    intro later earlier before stateRun foundService foundRun order
    have bound := (List.getElem?_eq_some_iff.mp foundService).1
    rw [List.length_append, List.length_singleton, watched.counted] at bound
    rw [List.getElem?_append_left (by omega)] at foundRun
    rw [List.getElem?_append] at foundService
    split at foundService
    next => exact watched.released later earlier before stateRun foundService foundRun order
    next =>
      have member := List.mem_of_getElem? foundRun
      have here := List.mem_of_getElem? foundService
      rw [List.mem_singleton.mp here]
      exact (watched.tracked stateRun member).released (rests stateRun member)

theorem replaced (watched : session.Watched) (last : session.run.current? = some current)
    {changed : StateRun} {service : ScriptedContainers} (consistent : service.Consistent)
    (evolves : session.service.service.Evolves service) (tracked : changed.Tracked service) :
    ({ session with
      service := { session.service with service }
      run := session.run.withCurrent changed } :
        Session (Observed ScriptedContainers) ρ).Watched := by
  obtain ⟨front, shape⟩ := List.getLast?_eq_some_iff.mp last
  have history : (session.run.withCurrent changed).history = front ++ [changed] := by
    simp [WorkflowRun.withCurrent, shape]
  have counted := watched.counted
  rw [shape, List.length_append, List.length_singleton] at counted
  refine ⟨consistent, ?_, ?_, ?_⟩
  · intro stateRun member
    rw [history] at member
    rcases List.mem_append.mp member with old | new
    · have there : stateRun ∈ session.run.history := by
        rw [shape]
        exact List.mem_append_left _ old
      exact (watched.tracked stateRun there).evolves evolves
    · rw [List.mem_singleton.mp new]
      exact tracked
  · rw [history, List.length_append, List.length_singleton]
    exact counted
  · intro later earlier before stateRun foundService foundRun order
    have bound := (List.getElem?_eq_some_iff.mp foundService).1
    dsimp only at bound foundRun
    rw [history, List.getElem?_append_left (by omega)] at foundRun
    refine watched.released later earlier before stateRun foundService ?_ order
    rw [shape, List.getElem?_append_left (by omega)]
    exact foundRun

theorem polled (watched : session.Watched) (last : session.run.current? = some current)
    (going : current.status = .started) : (session.polled current).Watched := by
  have here := List.mem_of_getLast? last
  have known : ∀ record ∈ current.containers, ∃ container,
      session.service.service.containers.get? record.id = some container :=
    fun record member => ((watched.tracked current here).vouched record member).known
  obtain ⟨answers, answered, consistent, evolves, vouched⟩ :=
    ScriptedContainers.poll_spec watched.consistent current.containers known
  have containers : session.awaited current = takeAnswers current.containers answers := by
    have result : (ContainerService.poll current.containerIds session.service).1 =
        .ok answers := answered
    rw [awaited, if_pos going, result]
  have tracked : ({ current with containers := takeAnswers current.containers answers } :
      StateRun).refreshed.Tracked
        (ScriptedContainers.poll current.containerIds session.service.service).2 := by
    rw [StateRun.refreshed, if_pos going]
    exact StateRun.tracked_ofContainers vouched rfl
  have whole := watched.replaced last consistent evolves tracked
  rw [← containers, awaited, if_pos going] at whole
  exact whole

theorem stopped (watched : session.Watched) (last : session.run.current? = some current) :
    (session.stopped current).Watched := by
  have here := List.mem_of_getLast? last
  obtain ⟨consistent, evolves, asked⟩ :=
    ScriptedContainers.cancel_spec watched.consistent current.containerIds
  have old := (watched.tracked current here).evolves evolves
  refine watched.replaced last consistent evolves ⟨old.vouched, ?_, ?_, ?_, ?_⟩
  · intro completed
    cases completed
  · intro failed
    cases failed
  · intro _ container member
    exact asked container.id (List.mem_map_of_mem member)
  · intro created
    cases created

end Watched

variable [RunRepository ρ]

theorem Move.watched {before after : Session (Observed ScriptedContainers) ρ}
    (move : Move Observed.Rescripted before after) (coherent : before.Coherent)
    (watched : before.Watched) : after.Watched := by
  have rests : ∀ current, before.run.current? = some current → current.status ≠ .started →
      ∀ stateRun ∈ before.run.history, stateRun.status ≠ .started := by
    intro current last resting
    refine CoherentHistory.rests coherent ?_
    intro other found
    rw [Option.some.inj (found.symm.trans last)]
    exact resting
  cases move with
  | launchFirst unstarted known =>
      have empty := coherent.unstarted unstarted
      have nothing : ∀ stateRun ∈ before.run.history, stateRun.status ≠ .started := by
        simp [empty]
      obtain ⟨consistent, tracked, counted, released⟩ := watched.launched nothing _ _ _
      exact ⟨consistent, tracked, counted, released⟩
  | launchNext started last completed follows known =>
      exact watched.launched (rests _ last (by rw [completed]; simp)) _ _ _
  | launchAgain active last stuck _ known =>
      refine watched.launched (rests _ last ?_) _ _ _
      rcases stuck with failed | cancelled
      · simp [failed]
      · simp [cancelled]
  | poll active last going => exact watched.polled last going
  | stop last going => exact watched.stopped last
  | interfere allowed =>
      refine ⟨allowed.service.consistent watched.consistent, ?_, ?_, ?_⟩
      · intro stateRun member
        exact (watched.tracked stateRun member).evolves allowed.service.evolves
      · rw [allowed.beforeLaunches]
        exact watched.counted
      · rw [allowed.beforeLaunches]
        exact watched.released
  | complete | cancel | giveUp | save | pause | recount =>
      exact ⟨watched.consistent, watched.tracked, watched.counted, watched.released⟩

theorem Moves.watched {before after : Session (Observed ScriptedContainers) ρ}
    (moves : Moves Observed.Rescripted before after) (coherent : before.Coherent)
    (watched : before.Watched) : after.Watched := by
  induction moves with
  | refl => exact watched
  | tail earlier move ih => exact move.watched (Moves.coherent earlier coherent) ih

end Session

def Event.Scripted : Event (Observed ScriptedContainers) → Prop
  | .operation driven => driven.Within Observed.Rescripted
  | .meanwhile change => ∀ service, Observed.Rescripted service (change service)
  | .reload _ _ => False

namespace Session

variable [RunRepository ρ]

theorem watched_follow {session : Session (Observed ScriptedContainers) ρ}
    (coherent : session.Coherent) (watched : session.Watched)
    (events : List (Event (Observed ScriptedContainers)))
    (scripted : ∀ event ∈ events, event.Scripted) :
    (session.follow events).2.Coherent ∧ (session.follow events).2.Watched := by
  induction events generalizing session with
  | nil => exact ⟨coherent, watched⟩
  | cons event events ih =>
      have others : ∀ other ∈ events, other.Scripted :=
        fun other member => scripted other (List.mem_cons_of_mem _ member)
      have here := scripted event List.mem_cons_self
      cases event with
      | operation operation =>
          have moves := operate_moves here session
          exact ih (moves.coherent coherent) (moves.watched coherent watched) others
      | meanwhile change =>
          have move : Move Observed.Rescripted session
              { session with service := change session.service } := .interfere (here _)
          exact ih (move.coherent coherent) (move.watched coherent watched) others
      | reload => cases here

end Session

/-- Whenever another state run is dispatched, and once the workflow has ended, the containers of all
earlier state runs have ended or were asked to stop, but for those of failed runs. -/
theorem containers_released [RunRepository ρ] (id environmentId runner : String)
    (workflow : Workflow) (repository : ρ) (now : Instant)
    (session : Session (Observed ScriptedContainers) ρ)
    (begun : (Session.begin id environmentId workflow runner
      ⟨⟨.fresh, []⟩, repository, now⟩).1 = .ok session)
    (events : List (Event (Observed ScriptedContainers)))
    (scripted : ∀ event ∈ events, event.Scripted) :
    let reached := (session.follow events).2
    reached.service.beforeLaunches.length = reached.run.history.length ∧
      (∀ (later earlier : Nat) (service : ScriptedContainers) (stateRun : StateRun),
        reached.service.beforeLaunches[later]? = some service →
          reached.run.history[earlier]? = some stateRun → earlier < later →
            stateRun.Released service) ∧
      (reached.run.status.isTerminal = true →
        ∀ stateRun ∈ reached.run.history, stateRun.Released reached.service.service) := by
  intro reached
  have watched : session.Watched := by
    obtain ⟨_, opened⟩ := Session.begin_ok begun
    have service : session.service = ⟨.fresh, []⟩ := by rw [opened]; rfl
    have history : session.run.history = [] := by rw [opened]; rfl
    refine ⟨?_, ?_, ?_, ?_⟩
    · rw [service]
      exact ScriptedContainers.consistent_fresh
    · simp [history]
    · simp [service, history]
    · simp [service]
  obtain ⟨coherent, final⟩ :=
    Session.watched_follow (Session.coherent_begin begun) watched events scripted
  refine ⟨final.counted, final.released, ?_⟩
  intro terminal stateRun member
  exact (final.tracked stateRun member).released
    (CoherentHistory.not_started coherent terminal stateRun member)

def Session.observedSample : Session (Observed ScriptedContainers) MemoryRepository :=
  .sample ⟨.fresh, []⟩
    ⟨SortedMap.empty.insert "run" (.fresh "run" "environment" .sample Instant.epoch.next)⟩

def Event.halfFailed : List (Event (Observed ScriptedContainers)) :=
  [.operation .start,
    .meanwhile (fun observed => { observed with
      service := (observed.service.setDefault .started).setStatus "mock-1" .failed }),
    .operation .refresh]

def Session.retriedSample : Session (Observed ScriptedContainers) MemoryRepository :=
  (observedSample.follow (Event.halfFailed ++ [.operation .retry])).2

def Session.abandonedSample : Session (Observed ScriptedContainers) MemoryRepository :=
  (observedSample.follow (Event.halfFailed ++ [.operation .cancelWorkflow])).2

/-- The first container is forgotten while it goes on, and its state is launched again. -/
def Event.halfForgotten : List (Event (Observed ScriptedContainers)) :=
  [.operation .start,
    .meanwhile (fun observed => { observed with service := observed.service.forget "mock-1" }),
    .operation .refresh, .operation .retry]

def Session.forgottenSample : Session (Observed ScriptedContainers) MemoryRepository :=
  (observedSample.follow Event.halfForgotten).2

theorem containers_released_of_half_failed :
    (Session.begin "run" "environment" .sample "runner"
        ⟨(⟨.fresh, []⟩ : Observed ScriptedContainers), MemoryRepository.empty, .epoch⟩).1 =
      .ok .observedSample ∧
    (∀ event ∈ Event.halfFailed ++ [.operation .retry], event.Scripted) ∧
    ∃ service stateRun,
      Session.retriedSample.service.beforeLaunches[1]? = some service ∧
      Session.retriedSample.run.history[0]? = some stateRun ∧
      stateRun.containerIds = ["mock-1", "mock-2"] ∧ stateRun.Released service := by
  have scripted : ∀ event ∈ Event.halfFailed ++ [.operation .retry], event.Scripted := by
    intro event member
    simp only [Event.halfFailed, List.cons_append, List.nil_append, List.mem_cons,
      List.not_mem_nil, or_false] at member
    rcases member with rfl | rfl | rfl | rfl
    · trivial
    · intro observed
      exact ⟨(ScriptedContainers.rescripted_setDefault _ _).trans
        (ScriptedContainers.rescripted_setStatus _ _ _), rfl⟩
    · trivial
    · trivial
  obtain ⟨_, released, _⟩ := containers_released "run" "environment" "runner" .sample
    MemoryRepository.empty .epoch .observedSample rfl _ scripted
  have launched : (Session.retriedSample.service.beforeLaunches[1]?).isSome = true := by
    decide +kernel
  have first : Session.retriedSample.run.history[0]?.map StateRun.containerIds =
      some ["mock-1", "mock-2"] := by
    decide +kernel
  obtain ⟨service, foundService⟩ := Option.isSome_iff_exists.mp launched
  obtain ⟨stateRun, foundRun, ids⟩ := Option.map_eq_some_iff.mp first
  exact ⟨rfl, scripted, service, stateRun, foundService, foundRun, ids,
    released 1 0 service stateRun foundService foundRun (by decide)⟩

/-- A container that goes on when another one of its run has failed is neither waited for nor asked
to stop when the state is launched again or the workflow is cancelled, and neither is one that the
service has forgotten. -/
theorem containers_left_running :
    Workflow.sample.fault? = none ∧
    (Session.begin "run" "environment" .sample "runner"
        ⟨(⟨.fresh, []⟩ : Observed ScriptedContainers), MemoryRepository.empty, .epoch⟩).1 =
      .ok .observedSample ∧
    (Session.retriedSample.run.history.map StateRun.status = [.failed, .started] ∧
      Session.retriedSample.run.history.map StateRun.containerIds =
        [["mock-1", "mock-2"], ["mock-3", "mock-4"]] ∧
      Session.retriedSample.service.service.plan = .none ∧
      ∃ service ∈ Session.retriedSample.service.beforeLaunches[1]?,
        ¬service.Released "mock-2") ∧
    (Session.abandonedSample.run.status = .cancelled ∧
      Session.abandonedSample.run.history.map StateRun.status = [.failed] ∧
      Session.abandonedSample.run.history.map StateRun.containerIds = [["mock-1", "mock-2"]] ∧
      Session.abandonedSample.service.service.plan = .none ∧
      ¬Session.abandonedSample.service.service.Released "mock-2") ∧
    (Session.forgottenSample.run.history.map StateRun.status = [.failed, .started] ∧
      Session.forgottenSample.run.history.map StateRun.containerIds =
        [["mock-1", "mock-2"], ["mock-3", "mock-4"]] ∧
      Session.forgottenSample.service.service.plan = .none ∧
      ∃ service ∈ Session.forgottenSample.service.beforeLaunches[1]?,
        ¬service.Released "mock-1") := by
  refine ⟨by decide +kernel, rfl, ⟨?_, ?_, ?_, ?_⟩, ⟨?_, ?_, ?_, ?_, ?_⟩, ?_, ?_, ?_, ?_⟩
  all_goals decide +kernel

end PrivateComputation
