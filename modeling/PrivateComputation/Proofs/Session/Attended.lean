import PrivateComputation.Containers.Observed
import PrivateComputation.Proofs.Containers.Polling
import PrivateComputation.Proofs.Session.BorneOut
import PrivateComputation.Proofs.Session.Grounded
import PrivateComputation.Proofs.Session.Ledger
import PrivateComputation.Proofs.Workflow.Accepted

/-!
A run on the local machine: the service forgets containers that have finished, but none of a state
run that is going on; and a state run fails only by its launch or by one of its own processes.
-/

namespace PrivateComputation

variable {σ π ρ : Type}

/-! ## Places of a history -/

theorem WorkflowRun.getElem?_withCurrent {run : WorkflowRun} {current changed stateRun : StateRun}
    (last : run.current? = some current) {index : Nat}
    (found : (run.withCurrent changed).history[index]? = some stateRun) :
    run.history[index]? = some stateRun ∨
      index + 1 = run.history.length ∧ stateRun = changed := by
  obtain ⟨front, shape⟩ := List.getLast?_eq_some_iff.mp last
  rw [withCurrent, shape, List.dropLast_concat] at found
  rw [shape]
  rcases getElem?_concat_cases found with old | ⟨place, same⟩
  · exact .inl (by rw [List.getElem?_append_left (List.getElem?_eq_some_iff.mp old).1, old])
  · exact .inr ⟨by rw [place, List.length_append, List.length_singleton], same⟩

/-! ## What every move keeps -/

/-- What is done to the service besides the calls of a session stays within a relation. -/
def Event.Within (world : σ → σ → Prop) : Event σ → Prop
  | .operation driven => driven.Within world
  | .meanwhile change => ∀ service, world service (change service)
  | .reload _ _ => True

def Event.Reloads (events : List (Event σ)) : Prop := ∃ runner now, .reload runner now ∈ events

theorem Event.Reloads.cons {events : List (Event σ)} (reloads : Reloads events) (event : Event σ) :
    Reloads (event :: events) := by
  obtain ⟨runner, now, member⟩ := reloads
  exact ⟨runner, now, List.mem_cons_of_mem _ member⟩

namespace Session

section Follow

variable [ContainerService σ] [RunRepository ρ] {world : σ → σ → Prop}
  {holds : Session σ ρ → Prop}

theorem Moves.keep (keeps : ∀ {before after}, Move world before after → holds before → holds after)
    {before after : Session σ ρ} (moves : Moves world before after) (here : holds before) :
    holds after := by
  induction moves with
  | refl => exact here
  | tail _ move ih => exact keeps move ih

theorem follow_keeps [LawfulRunRepository ρ]
    (keeps : ∀ {before after}, Move world before after → holds before → holds after)
    (taken : ∀ {session} runner now, holds session →
      holds (takeUp session.run runner { session.toSurroundings with now }))
    {session : Session σ ρ} (here : holds session) (events : List (Event σ))
    (allowed : ∀ event ∈ events, event.Within world)
    (stored : Event.Reloads events → session.Stored)
    (written : Event.Reloads events →
      ∀ fault, .error (.repository fault) ∉ (session.follow events).1) :
    holds (session.follow events).2 := by
  -- The run stands in the repository only as long as a reload is to come.
  induction events generalizing session with
  | nil => exact here
  | cons event events ih =>
      obtain ⟨first, others⟩ := List.forall_mem_cons.mp allowed
      have more : Event.Reloads events →
          ∀ fault, .error (.repository fault) ∉ ((session.react event).2.follow events).1 :=
        fun reloads fault member =>
          written (reloads.cons event) fault (List.mem_append_right _ member)
      cases event with
      | operation operation =>
          refine ih ((operate_moves first session).keep keeps here) others ?_ more
          intro reloads
          refine operate_saves (stored (reloads.cons _)) operation ?_
          intro fault failed
          exact written (reloads.cons _) fault
            (List.mem_append_left _ (List.mem_singleton.mpr failed.symm))
      | meanwhile change =>
          refine ih (keeps (.interfere (first _)) here) others ?_ more
          exact fun reloads => stored (reloads.cons _)
      | reload runner now =>
          -- The run stands in the repository as it is, so it is the same run that is taken up.
          have loads : Session.Stored session := stored ⟨runner, now, List.mem_cons_self⟩
          have reloaded := react_reload loads runner now
          rw [reloaded] at more
          change holds ((session.react (.reload runner now)).2.follow events).2
          rw [reloaded]
          exact ih (taken runner now here) others (fun _ => loads) more

end Follow

end Session

open LocalContainers

/-! ## State runs and their processes -/

/-- The processes of a machine go on as they like, but no one else uses the service. -/
structure Observed.HostMoves (before after : Observed (LocalContainers π)) : Prop where
  shell : after.service.shell = before.service.shell
  processes : after.service.processes = before.service.processes
  beforeLaunches : after.beforeLaunches = before.beforeLaunches

variable [ProcessHost π]

namespace StateRun

def LaunchedAs (processes : List Nat) (observed : Observed (LocalContainers π))
    (stateRun : StateRun) : Prop :=
  ∃ before runner final, observed.beforeLaunches.getLast? = some before ∧
    Starts before.shell (stateRun.definition.commands runner) before.host processes final

/-- The service knows all containers of a state run, each as one of the processes that were
launched for it, and none of them has failed. -/
structure Attended (processes : List Nat) (observed : Observed (LocalContainers π))
    (stateRun : StateRun) : Prop where
  present : stateRun.containers ≠ []
  launched : stateRun.LaunchedAs processes observed
  tracked : observed.service.Tracks processes stateRun.definition.timeout stateRun.containerIds
  unfailed : observed.service.NoneFailed stateRun.containerIds

theorem Attended.hostMoves {processes : List Nat} {before after : Observed (LocalContainers π)}
    {stateRun : StateRun} (attended : stateRun.Attended processes before)
    (moves : before.HostMoves after) : stateRun.Attended processes after := by
  refine ⟨attended.present, ?_, ?_, ?_⟩
  · rw [LaunchedAs, moves.beforeLaunches]
    exact attended.launched
  · rw [Tracks, moves.processes]
    exact attended.tracked
  · rw [NoneFailed, moves.processes]
    exact attended.unfailed

/-- A state run could not be launched by a session: the machine refused one of its commands. -/
def RefusedBy (session : Session (Observed (LocalContainers π)) ρ) (stateRun : StateRun) : Prop :=
  ∃ processes command message, Refuses session.service.service.shell
    (stateRun.definition.commands session.runner) session.service.service.host processes command
    message

end StateRun

namespace Session

variable {session : Session (Observed (LocalContainers π)) ρ} {current : StateRun}
  {processes : List Nat}

theorem launched_attended (session : Session (Observed (LocalContainers π)) ρ) (stateName : String)
    (definition : StateDefinition) (retryNumber : UInt32) :
    let after := session.launched stateName definition retryNumber
    ∃ stateRun, after.run.history = session.run.history ++ [stateRun] ∧
      (stateRun.status = .failed → definition.arguments ≠ [] → stateRun.RefusedBy session) ∧
      (stateRun.status = .started → ∃ processes, stateRun.Attended processes after.service) := by
  intro after
  rcases starts_or_refuses session.service.service.shell (definition.commands session.runner)
    session.service.service.host with ⟨processes, final, starts⟩ | refused
  · obtain ⟨containers, created, length, started, tracks, unfailed⟩ :=
      create_tracks starts definition.containerDefinition definition.timeout
    have result : (ContainerService.create definition.containerDefinition
        (definition.commands session.runner) definition.timeout session.service).1 =
          .ok containers := created
    refine ⟨.launched stateName definition containers retryNumber session.now.next, ?_, ?_, ?_⟩
    · rw [history_launched, result]
      rfl
    · intro failed commands
      refine absurd failed (WorkflowStatus.ofContainers_ne_failed ?_ ?_)
      · rintro rfl
        rw [StateDefinition.commands, List.length_map] at length
        exact commands (List.length_eq_zero_iff.mp length.symm)
      · intro container member
        rw [started container member]
        simp
    · intro going
      have present : containers ≠ [] := by
        rintro rfl
        cases going
      exact ⟨processes, present, ⟨session.service.service, session.runner, final,
        List.getLast?_concat .., starts⟩, tracks, unfailed⟩
  · refine ⟨_, history_launched session stateName definition retryNumber, fun _ _ => refused, ?_⟩
    obtain ⟨processes, command, message, refuses⟩ := refused
    have result : (ContainerService.create definition.containerDefinition
        (definition.commands session.runner) definition.timeout session.service).1 =
          .error (.dispatch definition.containerDefinition message) :=
      create_of_refuses refuses definition.containerDefinition definition.timeout
    rw [result]
    intro going
    cases going

theorem takeAnswers_of_known {containers answered : List ContainerInstance}
    (same : answered.map ContainerInstance.id = containers.map ContainerInstance.id) :
    takeAnswers containers (answered.map some) = answered := by
  induction containers generalizing answered with
  | nil =>
      rw [List.map_eq_nil_iff.mp same]
      rfl
  | cons container containers ih =>
      obtain ⟨first, others, rfl, -, same⟩ := List.map_eq_cons_iff.mp same
      exact congrArg (first :: ·) (ih same)

theorem polled_attended (attended : current.Attended processes session.service)
    (going : current.status = .started) :
    let after := session.polled current
    ∃ changed, after.run = session.run.withCurrent changed ∧
      (changed.status = .failed ∧ session.service.service.FailsPolled processes
          current.definition.timeout current.containerIds ∨
        changed.status ≠ .failed ∧ changed.Attended processes after.service) := by
  intro after
  obtain ⟨tracks, containers, answered, ids⟩ := attended.tracked.pollAll (List.Subset.refl _)
  have result : (ContainerService.poll current.containerIds session.service).1 =
      .ok (containers.map some) := congrArg Except.ok answered
  have awaits : session.awaited current = containers := by
    rw [awaited, if_pos going, result]
    exact takeAnswers_of_known ids
  have present : containers ≠ [] := by
    rintro rfl
    exact attended.present (List.map_eq_nil_iff.mp ids.symm)
  refine ⟨_, polled_run going, ?_⟩
  rw [awaits, StateRun.refreshed, if_pos going]
  rcases attended.tracked.failsPolled_or attended.unfailed (List.Subset.refl _) with fails | passes
  · obtain ⟨fails, container, member, failed⟩ := fails
    rw [answered, List.mem_map_of_injective (Option.some_injective _)] at member
    refine .inl ⟨?_, fails⟩
    -- A single failed container fails the whole state run.
    by_contra other
    exact (WorkflowStatus.unfailed_of_ofContainers other).2 container member failed
  · obtain ⟨unfailed, passed⟩ := passes
    refine .inr ⟨?_, present, attended.launched, ?_, ?_⟩
    · refine WorkflowStatus.ofContainers_ne_failed present ?_
      intro container member
      exact passed container (answered ▸ List.mem_map_of_mem member)
    · change Tracks _ _ (containers.map ContainerInstance.id) _
      rw [ids]
      exact tracks
    · change NoneFailed (containers.map ContainerInstance.id) _
      rw [ids]
      exact unfailed

def Attended (session : Session (Observed (LocalContainers π)) ρ) : Prop :=
  ∀ current, session.running? = some current →
    ∃ processes, current.Attended processes session.service

theorem attended_launched (session : Session (Observed (LocalContainers π)) ρ) (stateName : String)
    (definition : StateDefinition) (retryNumber : UInt32) :
    (session.launched stateName definition retryNumber).Attended := by
  obtain ⟨stateRun, history, -, attended⟩ :=
    launched_attended session stateName definition retryNumber
  intro current running
  obtain ⟨last, going⟩ := running?_eq_some_iff.mp running
  rw [WorkflowRun.current?, history, List.getLast?_concat] at last
  cases last
  exact attended going

variable [RunRepository ρ] {before after : Session (Observed (LocalContainers π)) ρ}

theorem Move.attended (move : Move Observed.HostMoves before after) (attended : before.Attended) :
    after.Attended := by
  cases move with
  | launchFirst | launchNext | launchAgain => exact attended_launched before _ _ _
  | @poll current active last going =>
      obtain ⟨processes, here⟩ := attended current (running?_eq_some_iff.mpr ⟨last, going⟩)
      obtain ⟨changed, run, outcome⟩ := polled_attended here going
      intro other running
      obtain ⟨found, goesOn⟩ := running?_eq_some_iff.mp running
      rw [run, WorkflowRun.current?, WorkflowRun.withCurrent, List.getLast?_concat] at found
      cases found
      rcases outcome with ⟨failed, -⟩ | ⟨-, still⟩
      · cases failed.symm.trans goesOn
      · exact ⟨processes, still⟩
  | stop last going =>
      intro other running
      obtain ⟨found, goesOn⟩ := running?_eq_some_iff.mp running
      change (_ ++ [_]).getLast? = _ at found
      rw [List.getLast?_concat] at found
      cases found
      cases goesOn
  | interfere allowed =>
      intro current running
      obtain ⟨processes, here⟩ := attended current running
      exact ⟨processes, here.hostMoves allowed⟩
  | pause =>
      intro current running
      obtain ⟨processes, here⟩ := attended current running
      exact ⟨processes, here.hostMoves ⟨rfl, rfl, rfl⟩⟩
  | complete | cancel | giveUp | save | recount => exact attended

theorem Move.fails (move : Move Observed.HostMoves before after)
    (accepted : before.run.workflow.fault? = none) (attended : before.Attended) {index : Nat}
    {stateRun : StateRun} (found : after.run.history[index]? = some stateRun)
    (failed : stateRun.status = .failed)
    (new : ∀ earlier, before.run.history[index]? = some earlier → earlier.status ≠ .failed) :
    index = before.run.history.length ∧ stateRun.RefusedBy before ∨
      ∃ current processes, before.running? = some current ∧
        index + 1 = before.run.history.length ∧ current.Attended processes before.service ∧
        before.service.service.FailsPolled processes current.definition.timeout
          current.containerIds := by
  -- An accepted workflow has no state without commands, so a launch that goes well does not fail.
  have launches : ∀ {stateName definition} retryNumber,
      before.run.workflow.state? stateName = some definition →
      (before.launched stateName definition retryNumber).run.history[index]? = some stateRun →
      index = before.run.history.length ∧ stateRun.RefusedBy before := by
    intro stateName definition retryNumber known there
    obtain ⟨launched, history, refused, -⟩ :=
      launched_attended before stateName definition retryNumber
    rw [history] at there
    rcases getElem?_concat_cases there with old | ⟨last, rfl⟩
    · exact absurd failed (new stateRun old)
    · have admitted := (Workflow.fault?_eq_none_iff.mp accepted).admits stateName definition known
      exact ⟨last, refused failed admitted.launches⟩
  cases move with
  | launchFirst _ known => exact .inl (launches _ known found)
  | launchNext _ _ _ _ known => exact .inl (launches _ known found)
  | launchAgain _ _ _ _ known => exact .inl (launches _ known found)
  | @poll current active last going =>
      have running := running?_eq_some_iff.mpr ⟨last, going⟩
      obtain ⟨processes, here⟩ := attended current running
      obtain ⟨changed, run, outcome⟩ := polled_attended here going
      rw [run] at found
      rcases WorkflowRun.getElem?_withCurrent last found with old | ⟨place, rfl⟩
      · exact absurd failed (new stateRun old)
      · rcases outcome with ⟨-, fails⟩ | ⟨other, -⟩
        · exact .inr ⟨current, processes, running, place, here, fails⟩
        · exact absurd failed other
  | stop last going =>
      rcases WorkflowRun.getElem?_withCurrent last found with old | ⟨-, rfl⟩
      · exact absurd failed (new stateRun old)
      · cases failed
  | complete | cancel | giveUp | save | pause | interfere | recount =>
      exact absurd failed (new stateRun found)

end Session

/-- At no moment, also within an operation, has the service forgotten a container of the state run
that is going on, so that every poll knows all of them, whatever becomes of the processes; and a
state run comes to have failed only if the machine refused one of its commands, or by a poll at which
one of its own processes has ended without success, took too long or could not be asked. Writes may
fail, unless the run is taken up from the repository again: what stands there would be an older
state run, whose containers are forgotten. -/
theorem live_run_never_forgotten [RunRepository ρ] [LawfulRunRepository ρ]
    (id environmentId runner : String) (workflow : Workflow) (accepted : workflow.fault? = none)
    (service : LocalContainers π) (repository : ρ) (now : Instant)
    (session : Session (Observed (LocalContainers π)) ρ)
    (begun : (Session.begin id environmentId workflow runner
      ⟨⟨service, []⟩, repository, now⟩).1 = .ok session)
    (events : List (Event (Observed (LocalContainers π))))
    (allowed : ∀ event ∈ events, event.Within Observed.HostMoves)
    (written : Event.Reloads events →
      ∀ fault, .error (.repository fault) ∉ (session.follow events).1)
    (moment : Session (Observed (LocalContainers π)) ρ)
    (moves : Session.Moves Observed.HostMoves (session.follow events).2 moment) :
    (∀ current, moment.running? = some current →
      (∃ processes, current.Attended processes moment.service) ∧
        ∃ containers : List ContainerInstance,
          (ContainerService.poll current.containerIds moment.service).1 =
            .ok (containers.map some) ∧
          containers.map ContainerInstance.id = current.containerIds) ∧
    ∀ after, Session.Move Observed.HostMoves moment after → ∀ index stateRun,
      after.run.history[index]? = some stateRun → stateRun.status = .failed →
      (∀ earlier, moment.run.history[index]? = some earlier → earlier.status ≠ .failed) →
        index = moment.run.history.length ∧ stateRun.RefusedBy moment ∨
        ∃ current processes, moment.running? = some current ∧
          index + 1 = moment.run.history.length ∧ current.Attended processes moment.service ∧
          moment.service.service.FailsPolled processes current.definition.timeout
            current.containerIds := by
  obtain ⟨stored, opened⟩ := Session.stored_begin begun
  have fresh : session.Attended := by
    rw [opened]
    intro current running
    cases running
  have reached : (session.follow events).2.Attended := by
    refine Session.follow_keeps Session.Move.attended ?_ fresh events allowed (fun _ => stored)
      written
    exact fun _ _ attended => attended
  have attended : moment.Attended := moves.keep Session.Move.attended reached
  obtain ⟨sound, -⟩ := Session.sound_begin begun
  have known : session.run.workflow.fault? = none := by
    rw [opened]
    exact accepted
  have still : moment.run.workflow.fault? = none := by
    rw [moves.continues.identity.workflow]
    exact (sound.grounded known events).2.accepted
  constructor
  · intro current running
    obtain ⟨processes, here⟩ := attended current running
    obtain ⟨-, containers, answered, ids⟩ := here.tracked.pollAll (List.Subset.refl _)
    exact ⟨⟨processes, here⟩, containers, congrArg Except.ok answered, ids⟩
  · intro after move index stateRun found failed new
    exact move.fails still attended found failed new

structure IdleHost where
  started : Nat
  named : Nat
  seconds : Nat
  exits : List (Nat × Option Int32)

namespace IdleHost

def exit (process : Nat) (code : Option Int32) (host : IdleHost) : IdleHost :=
  { host with exits := (process, code) :: host.exits }

def check (process : Nat) (host : IdleHost) : ProcessStatus × IdleHost :=
  match host.exits.lookup process with
  | some code => (.ended code, host)
  | none => (.running, host)

instance : ProcessHost IdleHost where
  start _ _ host := (.ok host.started, { host with started := host.started + 1 })
  check := check
  kill process host := host.exit process none
  now host := host.seconds * 1000000
  pause host := { host with seconds := host.seconds + 1 }
  freshId host := ("c" ++ toString host.named, { host with named := host.named + 1 })

end IdleHost

def Observed.exit (process : Nat) (code : Option Int32)
    (observed : Observed (LocalContainers IdleHost)) : Observed (LocalContainers IdleHost) :=
  { observed with
    service := { observed.service with host := observed.service.host.exit process code } }

def Event.exits : List (Event (Observed (LocalContainers IdleHost))) :=
  [.operation .start, .meanwhile (Observed.exit 0 (some 0)), .operation .refresh,
    .operation .cancelState, .reload "runner" .epoch, .operation .retry,
    .meanwhile (Observed.exit 2 (some 3))]

def Session.idleSample : Session (Observed (LocalContainers IdleHost)) MemoryRepository :=
  .sample ⟨.fresh "sh" ⟨0, 0, 0, []⟩, []⟩
    ⟨SortedMap.empty.insert "run" (.fresh "run" "environment" .sample Instant.epoch.next)⟩

def Session.exitedSample : Session (Observed (LocalContainers IdleHost)) MemoryRepository :=
  (idleSample.follow Event.exits).2

theorem live_run_never_forgotten_of_exits :
    (Session.begin "run" "environment" .sample "runner"
        ⟨(⟨.fresh "sh" ⟨0, 0, 0, []⟩, []⟩ : Observed (LocalContainers IdleHost)),
          MemoryRepository.empty, .epoch⟩).1 = .ok .idleSample ∧
    (∀ event ∈ Event.exits, event.Within Observed.HostMoves) ∧
    (Session.idleSample.follow Event.exits).1 =
      [.ok .done, .ok (.status .started), .ok .done, .ok .done] ∧
    Session.exitedSample.run.history.map StateRun.status = [.cancelled, .started] ∧
    Session.exitedSample.service.service.processes.keys = ["c2", "c3"] ∧
    ∃ current processes, Session.exitedSample.running? = some current ∧
      current.containerIds = ["c2", "c3"] ∧
      current.Attended processes Session.exitedSample.service ∧
      Session.exitedSample.service.service.FailsPolled processes none ["c2", "c3"] := by
  have allowed : ∀ event ∈ Event.exits, event.Within Observed.HostMoves := by
    intro event member
    simp only [Event.exits, List.mem_cons, List.not_mem_nil, or_false] at member
    rcases member with rfl | rfl | rfl | rfl | rfl | rfl | rfl
    · trivial
    · exact fun _ => ⟨rfl, rfl, rfl⟩
    · trivial
    · trivial
    · trivial
    · trivial
    · exact fun _ => ⟨rfl, rfl, rfl⟩
  have answers : (Session.idleSample.follow Event.exits).1 =
      [.ok .done, .ok (.status .started), .ok .done, .ok .done] := by
    decide +kernel
  have written : ∀ fault, .error (.repository fault) ∉
      (Session.idleSample.follow Event.exits).1 := by
    intro fault
    simp [answers]
  obtain ⟨-, fails⟩ := live_run_never_forgotten "run" "environment" "runner" .sample
    (by decide +kernel) (.fresh "sh" ⟨0, 0, 0, []⟩) MemoryRepository.empty .epoch .idleSample rfl
    Event.exits allowed (fun _ => written) .exitedSample .refl
  have polls : ∀ current ∈ Session.exitedSample.running?, current.containerIds = ["c2", "c3"] ∧
      current.definition.timeout = none ∧ Session.exitedSample.run.status.isTerminal = false ∧
      (Session.exitedSample.polled current).run.history[1]?.map StateRun.status =
        some .failed := by
    decide +kernel
  have statuses : Session.exitedSample.run.history.map StateRun.status =
      [.cancelled, .started] := by
    decide +kernel
  refine ⟨rfl, allowed, answers, statuses, by decide +kernel, ?_⟩
  have going : Session.exitedSample.running?.isSome = true := by decide +kernel
  obtain ⟨current, running⟩ := Option.isSome_iff_exists.mp going
  obtain ⟨ids, untimed, active, failing⟩ := polls current running
  obtain ⟨last, started⟩ := Session.running?_eq_some_iff.mp running
  obtain ⟨stateRun, found, failed⟩ := Option.map_eq_some_iff.mp failing
  have new : ∀ earlier ∈ Session.exitedSample.run.history[1]?, earlier.status ≠ .failed := by
    decide +kernel
  rcases fails _ (.poll active last started) 1 stateRun found failed new with
    ⟨place, -⟩ | ⟨other, processes, same, -, attended, polled⟩
  · have counted := congrArg List.length statuses
    rw [List.length_map, ← place] at counted
    cases counted
  · cases running.symm.trans same
    rw [ids, untimed] at polled
    exact ⟨current, processes, running, ids, attended, polled⟩

end PrivateComputation
