import PrivateComputation.Proofs.Containers.Ledger
import PrivateComputation.Proofs.Session.Released
import PrivateComputation.Proofs.Session.Stored

/-!
The history of a run agrees with what the container service has written down: every dispatch was
carried out once, every container is held by one state run, and those of cancelled state runs were
asked to stop.
-/

namespace PrivateComputation

variable {ρ : Type}

def StateRun.granted? (runner : String) (service : ScriptedContainers) (stateRun : StateRun) :
    Option (List ContainerInstance) :=
  (ContainerService.create stateRun.definition.containerDefinition
    (stateRun.definition.commands runner) stateRun.definition.timeout service).1.toOption

/-- State runs with the service as it was before the dispatch of each. -/
abbrev Dispatches := List (StateRun × ScriptedContainers)

namespace Dispatches

def succeeded (runner : String) (dispatches : Dispatches) : Dispatches :=
  dispatches.filter (fun dispatch => (dispatch.1.granted? runner dispatch.2).isSome)

def commands (runner : String) (dispatches : Dispatches) : List (List String) :=
  (dispatches.succeeded runner).map (fun dispatch => dispatch.1.definition.commands runner)

theorem commands_concat (runner : String) (dispatches : Dispatches) (stateRun : StateRun)
    (service : ScriptedContainers) :
    commands runner (dispatches ++ [(stateRun, service)]) =
      dispatches.commands runner ++
        if (stateRun.granted? runner service).isSome then [stateRun.definition.commands runner]
        else [] := by
  simp only [commands, succeeded, List.filter_append, List.map_append, List.filter_cons,
    List.filter_nil]
  split <;> rfl

end Dispatches

def cancelledIds (history : List StateRun) : List String :=
  (history.filter (fun stateRun => stateRun.status = .cancelled)).flatMap StateRun.containerIds

theorem cancelledIds_concat (history : List StateRun) (stateRun : StateRun) :
    cancelledIds (history ++ [stateRun]) =
      cancelledIds history ++
        if stateRun.status = .cancelled then stateRun.containerIds else [] := by
  by_cases cancelled : stateRun.status = .cancelled
  · simp [cancelledIds, cancelled]
  · simp [cancelledIds, cancelled]

/-- The books of a service agree with a history: what was launched, in the order of the history,
what each state run holds, and what was asked to stop. -/
structure Balanced (runner : String) (history : List StateRun)
    (observed : Observed ScriptedContainers) : Prop where
  counted : observed.beforeLaunches.length = history.length
  created : observed.service.created =
    Dispatches.commands runner (history.zip observed.beforeLaunches)
  /-- A state run holds the containers that its dispatch was given, one for each of the arguments
  of its state. -/
  held : ∀ dispatch ∈ history.zip observed.beforeLaunches, ∀ containers,
    dispatch.1.granted? runner dispatch.2 = some containers →
      dispatch.1.containerIds = containers.map ContainerInstance.id ∧
        dispatch.1.containers.length = dispatch.1.definition.arguments.length
  bare : ∀ dispatch ∈ history.zip observed.beforeLaunches,
    dispatch.1.granted? runner dispatch.2 = none → dispatch.1.containers = []
  numbered : history.flatMap StateRun.containerIds = observed.service.launchedIds
  cancelled : observed.service.cancelled = cancelledIds history

namespace Balanced

variable {runner : String} {history front : List StateRun} {current stateRun : StateRun}
  {observed : Observed ScriptedContainers} {service : ScriptedContainers}

theorem fresh (runner : String) : Balanced runner [] ⟨.fresh, []⟩ where
  counted := rfl
  created := rfl
  held := by simp
  bare := by simp
  numbered := rfl
  cancelled := rfl

theorem nodup (balanced : Balanced runner history observed) :
    (history.flatMap StateRun.containerIds).Nodup := by
  rw [balanced.numbered]
  exact observed.service.nodup_launchedIds

theorem sameLedger (balanced : Balanced runner history observed)
    (same : observed.service.SameLedger service) :
    Balanced runner history { observed with service } where
  counted := balanced.counted
  created := same.created.trans balanced.created
  held := balanced.held
  bare := balanced.bare
  numbered := by
    rw [balanced.numbered, ScriptedContainers.launchedIds, ScriptedContainers.launchedIds,
      same.launches]
  cancelled := same.cancelled.trans balanced.cancelled

theorem zip_last (balanced : Balanced runner (front ++ [current]) observed) :
    ∃ before last, ∀ stateRun : StateRun,
      (front ++ [stateRun]).zip observed.beforeLaunches =
        front.zip before ++ [(stateRun, last)] := by
  have counted := balanced.counted
  rw [List.length_append, List.length_singleton] at counted
  rcases List.eq_nil_or_concat observed.beforeLaunches with empty | ⟨before, last, shape⟩
  · simp [empty] at counted
  · rw [shape, List.length_concat] at counted
    refine ⟨before, last, ?_⟩
    intro stateRun
    rw [shape, List.concat_eq_append, List.zip_append (by omega)]
    rfl

theorem replaceLast (balanced : Balanced runner (front ++ [current]) observed)
    (changed : StateRun) (going : current.status = .started)
    (definition : changed.definition = current.definition)
    (ids : changed.containerIds = current.containerIds)
    (launches : service.launches = observed.service.launches)
    (created : service.created = observed.service.created)
    (cancelled : service.cancelled = observed.service.cancelled ++
      if changed.status = .cancelled then changed.containerIds else []) :
    Balanced runner (front ++ [changed]) { observed with service } := by
  obtain ⟨before, last, zipped⟩ := balanced.zip_last
  have granted : changed.granted? runner last = current.granted? runner last := by
    rw [StateRun.granted?, StateRun.granted?, definition]
  have sizes : changed.containers.length = current.containers.length := by
    have := congrArg List.length ids
    rwa [StateRun.containerIds, StateRun.containerIds, List.length_map, List.length_map] at this
  have here : (current, last) ∈ (front ++ [current]).zip observed.beforeLaunches := by
    simp [zipped]
  have there : ∀ dispatch ∈ front.zip before,
      dispatch ∈ (front ++ [current]).zip observed.beforeLaunches := by
    intro dispatch member
    rw [zipped]
    exact List.mem_append_left _ member
  refine ⟨?_, ?_, ?_, ?_, ?_, ?_⟩
  · rw [balanced.counted, List.length_append, List.length_append]
    rfl
  · dsimp only
    have books := balanced.created
    rw [zipped, Dispatches.commands_concat] at books ⊢
    rw [created, books, granted, definition]
  · dsimp only
    rw [zipped]
    intro dispatch member containers given
    rcases List.mem_append.mp member with old | new
    · exact balanced.held dispatch (there dispatch old) containers given
    · cases List.mem_singleton.mp new
      obtain ⟨held, complete⟩ := balanced.held _ here containers (granted.symm.trans given)
      exact ⟨ids.trans held, by rw [definition, sizes]; exact complete⟩
  · dsimp only
    rw [zipped]
    intro dispatch member nothing
    rcases List.mem_append.mp member with old | new
    · exact balanced.bare dispatch (there dispatch old) nothing
    · cases List.mem_singleton.mp new
      have empty := balanced.bare _ here (granted.symm.trans nothing)
      exact List.length_eq_zero_iff.mp (by rw [sizes, empty]; rfl)
  · have numbered := balanced.numbered
    rw [List.flatMap_append, List.flatMap_singleton] at numbered ⊢
    rw [ids, numbered, ScriptedContainers.launchedIds, ScriptedContainers.launchedIds, launches]
  · have stopped := balanced.cancelled
    rw [cancelledIds_concat, going, if_neg (by simp), List.append_nil] at stopped
    rw [cancelledIds_concat, cancelled, stopped]

theorem append (balanced : Balanced runner history observed)
    (orderly : observed.service.Orderly) (stateName : String) (definition : StateDefinition)
    (retryNumber : UInt32) (startedAt : Instant) :
    let outcome := ScriptedContainers.create definition.containerDefinition
      (definition.commands runner) observed.service
    Balanced runner
      (history ++ [.launched stateName definition (outcome.1.toOption.getD []) retryNumber
        startedAt])
      ⟨outcome.2, observed.beforeLaunches ++ [observed.service]⟩ := by
  intro outcome
  obtain ⟨_, created, numbered, cancelled, complete⟩ := ScriptedContainers.create_ledger orderly
    definition.containerDefinition (definition.commands runner)
  generalize shape : StateRun.launched stateName definition (outcome.1.toOption.getD [])
    retryNumber startedAt = stateRun
  have holds : stateRun.containers = outcome.1.toOption.getD [] := by
    rw [← shape]
    rfl
  have follows : stateRun.definition = definition := by
    rw [← shape]
    rfl
  have notCancelled : stateRun.status ≠ .cancelled := by
    rw [← shape]
    exact WorkflowStatus.ofContainers_ne_cancelled _
  have granted : stateRun.granted? runner observed.service = outcome.1.toOption := by
    rw [StateRun.granted?, follows]
    rfl
  have zipped : (history ++ [stateRun]).zip (observed.beforeLaunches ++ [observed.service]) =
      history.zip observed.beforeLaunches ++ [(stateRun, observed.service)] :=
    List.zip_append balanced.counted.symm
  refine ⟨?_, ?_, ?_, ?_, ?_, ?_⟩
  · simp [balanced.counted]
  · rw [zipped, Dispatches.commands_concat, granted, follows, ← balanced.created]
    exact created
  · rw [zipped]
    intro dispatch member given found
    rcases List.mem_append.mp member with old | new
    · exact balanced.held dispatch old given found
    · cases List.mem_singleton.mp new
      have went := granted.symm.trans found
      have same : stateRun.containers = given := by rw [holds, went, Option.getD_some]
      have length := complete given went
      rw [StateDefinition.commands, List.length_map] at length
      exact ⟨congrArg (List.map _) same, by rw [same, length, follows]⟩
  · rw [zipped]
    intro dispatch member nothing
    rcases List.mem_append.mp member with old | new
    · exact balanced.bare dispatch old nothing
    · cases List.mem_singleton.mp new
      rw [holds, ← granted, nothing, Option.getD_none]
  · rw [List.flatMap_append, List.flatMap_singleton, balanced.numbered, StateRun.containerIds,
      holds]
    exact numbered.symm
  · rw [cancelledIds_concat, if_neg notCancelled, List.append_nil, ← balanced.cancelled]
    exact cancelled

end Balanced

/-! ## Sessions -/

/-- The service of a session may be set up anew, but what it has written down stays. -/
structure Observed.Reconfigured (before after : Observed ScriptedContainers) : Prop where
  service : before.service.Reconfigured after.service
  beforeLaunches : after.beforeLaunches = before.beforeLaunches

namespace Session

theorem history_launched {σ : Type} [ContainerService σ] (session : Session σ ρ)
    (stateName : String) (definition : StateDefinition) (retryNumber : UInt32) :
    (session.launched stateName definition retryNumber).run.history =
      session.run.history ++ [.launched stateName definition
        ((ContainerService.create definition.containerDefinition
          (definition.commands session.runner) definition.timeout
          session.service).1.toOption.getD []) retryNumber session.now.next] := by
  unfold launched
  dsimp only
  cases (ContainerService.create definition.containerDefinition
    (definition.commands session.runner) definition.timeout session.service).1 <;> rfl

structure Accounted (runner : String) (session : Session (Observed ScriptedContainers) ρ) :
    Prop where
  sameRunner : session.runner = runner
  orderly : session.service.service.Orderly
  balanced : Balanced runner session.run.history session.service

namespace Accounted

variable {runner : String} {session : Session (Observed ScriptedContainers) ρ}
  {current : StateRun}

theorem launched (accounted : session.Accounted runner) (stateName : String)
    (definition : StateDefinition) (retryNumber : UInt32) :
    (session.launched stateName definition retryNumber).Accounted runner := by
  have same := accounted.sameRunner
  subst same
  have books := accounted.balanced.append accounted.orderly stateName definition retryNumber
    session.now.next
  have orderly := (ScriptedContainers.create_ledger accounted.orderly
    definition.containerDefinition (definition.commands session.runner)).1
  refine ⟨rfl, orderly, ?_⟩
  rw [history_launched]
  exact books

theorem polled (accounted : session.Accounted runner)
    (last : session.run.current? = some current) (going : current.status = .started) :
    (session.polled current).Accounted runner := by
  obtain ⟨orderly, same, ids⟩ :=
    ScriptedContainers.poll_ledger accounted.orderly current.containers
  obtain ⟨front, shape⟩ := List.getLast?_eq_some_iff.mp last
  have books : Balanced runner (front ++ [current]) session.service :=
    shape ▸ accounted.balanced
  have kept : (session.awaited current).map ContainerInstance.id = current.containerIds := by
    rw [awaited, if_pos going]
    cases result : (ContainerService.poll current.containerIds session.service).1 with
    | ok answers => exact ids answers result
    | error fault => rfl
  have history : (session.polled current).run.history =
      front ++ [{ current with
        containers := session.awaited current
        status := .ofContainers (session.awaited current) }] := by
    rw [polled_run going, WorkflowRun.withCurrent, shape, List.dropLast_concat,
      StateRun.refreshed, if_pos going]
  refine ⟨accounted.sameRunner, orderly, ?_⟩
  rw [history]
  refine books.replaceLast _ going rfl kept same.launches same.created ?_
  rw [if_neg (WorkflowStatus.ofContainers_ne_cancelled _), List.append_nil]
  exact same.cancelled

theorem stopped (accounted : session.Accounted runner)
    (last : session.run.current? = some current) (going : current.status = .started) :
    (session.stopped current).Accounted runner := by
  obtain ⟨orderly, launches, created, cancelled⟩ :=
    ScriptedContainers.cancel_ledger accounted.orderly current.containerIds
  obtain ⟨front, shape⟩ := List.getLast?_eq_some_iff.mp last
  have books : Balanced runner (front ++ [current]) session.service :=
    shape ▸ accounted.balanced
  have history : (session.stopped current).run.history =
      front ++ [{ current with status := .cancelled }] := by
    simp [Session.stopped, WorkflowRun.withCurrent, shape]
  refine ⟨accounted.sameRunner, orderly, ?_⟩
  rw [history]
  exact books.replaceLast _ going rfl rfl launches created cancelled

end Accounted

variable [RunRepository ρ] {runner : String}

theorem Move.accounted {before after : Session (Observed ScriptedContainers) ρ}
    (move : Move Observed.Reconfigured before after) (accounted : before.Accounted runner) :
    after.Accounted runner := by
  cases move with
  | launchFirst unstarted known =>
      obtain ⟨same, orderly, balanced⟩ := accounted.launched _ _ _
      exact ⟨same, orderly, balanced⟩
  | launchNext | launchAgain => exact accounted.launched _ _ _
  | poll active last going => exact accounted.polled last going
  | stop last going => exact accounted.stopped last going
  | interfere allowed =>
      have books := accounted.balanced.sameLedger allowed.service.sameLedger
      rw [← allowed.beforeLaunches] at books
      exact ⟨accounted.sameRunner, accounted.orderly.reconfigured allowed.service, books⟩
  | complete | cancel | giveUp | save | pause | recount =>
      exact ⟨accounted.sameRunner, accounted.orderly, accounted.balanced⟩

theorem Moves.accounted {before after : Session (Observed ScriptedContainers) ρ}
    (moves : Moves Observed.Reconfigured before after) (accounted : before.Accounted runner) :
    after.Accounted runner := by
  induction moves with
  | refl => exact accounted
  | tail _ move ih => exact move.accounted ih

end Session

/-- What may happen to a session with one runner: operations, reloads with that runner, and that the
service is set up anew, between operations and while a run is driven to its end. -/
def Event.Accountable (runner : String) : Event (Observed ScriptedContainers) → Prop
  | .operation driven => driven.Within Observed.Reconfigured
  | .meanwhile change => ∀ service, Observed.Reconfigured service (change service)
  | .reload other _ => other = runner

namespace Session

variable [RunRepository ρ] [LawfulRunRepository ρ] {runner : String}

theorem accounted_follow {session : Session (Observed ScriptedContainers) ρ}
    (accounted : session.Accounted runner) (stored : session.Stored)
    (events : List (Event (Observed ScriptedContainers)))
    (allowed : ∀ event ∈ events, event.Accountable runner)
    (kept : ∀ fault, .error (.repository fault) ∉ (session.follow events).1) :
    (session.follow events).2.Accounted runner := by
  -- That the run is stored goes with the invariant, since a reload goes on from what is stored.
  induction events generalizing session with
  | nil => exact accounted
  | cons event events ih =>
      have here := allowed event List.mem_cons_self
      have others : ∀ other ∈ events, other.Accountable runner :=
        fun other member => allowed other (List.mem_cons_of_mem _ member)
      have first : ∀ fault, .error (.repository fault) ∉ (session.react event).1 :=
        fun fault member => kept fault (List.mem_append_left _ member)
      have more : ∀ fault,
          .error (.repository fault) ∉ ((session.react event).2.follow events).1 :=
        fun fault member => kept fault (List.mem_append_right _ member)
      cases event with
      | operation operation =>
          have moves := operate_moves here session
          have saves := operate_saves stored operation
          refine ih (moves.accounted accounted) (saves ?_) others more
          intro fault failed
          exact first fault (List.mem_singleton.mpr failed.symm)
      | meanwhile change =>
          have move : Move Observed.Reconfigured session
              { session with service := change session.service } := .interfere (here _)
          exact ih (move.accounted accounted) stored others more
      | reload other now =>
          have named : other = runner := here
          have taken := react_reload stored other now
          rw [taken] at more
          change (((session.react (.reload other now)).2.follow events).2).Accounted runner
          rw [taken]
          exact ih ⟨named, accounted.orderly, accounted.balanced⟩ stored others more

end Session

/-- As long as no write fails, the service has carried out each dispatch of the history once and in
order, each state run holds the containers that its dispatch was given, no container is held twice,
and those of the cancelled state runs were asked to stop, in order; whatever launches and polls
fail. -/
theorem dispatch_ledger [RunRepository ρ] [LawfulRunRepository ρ]
    (id environmentId runner : String) (workflow : Workflow) (repository : ρ) (now : Instant)
    (session : Session (Observed ScriptedContainers) ρ)
    (begun : (Session.begin id environmentId workflow runner
      ⟨⟨.fresh, []⟩, repository, now⟩).1 = .ok session)
    (events : List (Event (Observed ScriptedContainers)))
    (allowed : ∀ event ∈ events, event.Accountable runner)
    (kept : ∀ fault, .error (.repository fault) ∉ (session.follow events).1) :
    let reached := (session.follow events).2
    Balanced runner reached.run.history reached.service ∧
      (reached.run.history.flatMap StateRun.containerIds).Nodup := by
  intro reached
  obtain ⟨stored, opened⟩ := Session.stored_begin begun
  have accounted : session.Accounted runner := by
    rw [opened]
    exact ⟨rfl, ScriptedContainers.orderly_fresh, .fresh runner⟩
  have final := Session.accounted_follow accounted stored events allowed kept
  exact ⟨final.balanced, final.balanced.nodup⟩

def Observed.failNext (operation : ContainerOperation)
    (observed : Observed ScriptedContainers) : Observed ScriptedContainers :=
  { observed with service := observed.service.inject operation "throttled" (some 1) }

theorem Observed.reconfigured_failNext {operation : ContainerOperation}
    (other : operation ≠ .cancel) (observed : Observed ScriptedContainers) :
    Observed.Reconfigured observed (Observed.failNext operation observed) := by
  cases operation with
  | create | get => exact ⟨⟨rfl, rfl, rfl, rfl, fun stops => stops⟩, rfl⟩
  | cancel => exact absurd rfl other

def Event.throttled : List (Event (Observed ScriptedContainers)) :=
  [.meanwhile (Observed.failNext .create), .operation .start, .operation .retry,
    .meanwhile (Observed.failNext .get), .operation .refresh, .operation .cancelState,
    .reload "runner" .epoch, .operation .retry, .operation .next]

def Session.throttledSample : Session (Observed ScriptedContainers) MemoryRepository :=
  (observedSample.follow Event.throttled).2

theorem dispatch_ledger_of_throttled :
    (Session.begin "run" "environment" .sample "runner"
        ⟨(⟨.fresh, []⟩ : Observed ScriptedContainers), MemoryRepository.empty, .epoch⟩).1 =
      .ok .observedSample ∧
    (∀ event ∈ Event.throttled, event.Accountable "runner") ∧
    (Session.observedSample.follow Event.throttled).1 =
      [.ok .done, .ok .done, .ok (.status .started), .ok .done, .ok .done, .ok .done] ∧
    Session.throttledSample.run.history.map StateRun.containerIds =
      [[], ["mock-1", "mock-2"], ["mock-3", "mock-4"], ["mock-5"]] ∧
    Session.throttledSample.service.service.cancelled = ["mock-1", "mock-2"] ∧
    Balanced "runner" Session.throttledSample.run.history Session.throttledSample.service ∧
    (Session.throttledSample.run.history.flatMap StateRun.containerIds).Nodup := by
  have allowed : ∀ event ∈ Event.throttled, event.Accountable "runner" := by
    intro event member
    simp only [Event.throttled, List.mem_cons, List.not_mem_nil, or_false] at member
    rcases member with rfl | rfl | rfl | rfl | rfl | rfl | rfl | rfl | rfl
    · exact Observed.reconfigured_failNext (by simp)
    · trivial
    · trivial
    · exact Observed.reconfigured_failNext (by simp)
    · trivial
    · trivial
    · rfl
    · trivial
    · trivial
  have answers : (Session.observedSample.follow Event.throttled).1 =
      [.ok .done, .ok .done, .ok (.status .started), .ok .done, .ok .done, .ok .done] := by
    decide +kernel
  have kept : ∀ fault, .error (.repository fault) ∉
      (Session.observedSample.follow Event.throttled).1 := by
    intro fault
    simp [answers]
  have books := dispatch_ledger "run" "environment" "runner" .sample MemoryRepository.empty .epoch
    .observedSample rfl Event.throttled allowed kept
  exact ⟨rfl, allowed, answers, by decide +kernel, by decide +kernel, books⟩

end PrivateComputation
