import PrivateComputation.Proofs.Session.History

/-!
The status of every state run is borne out by the containers that it holds, unless it was cancelled,
whatever the container service answers and whatever becomes of writes.
-/

namespace PrivateComputation

variable {σ ρ : Type}

/-! ## Statuses and containers -/

namespace WorkflowStatus

variable {containers : List ContainerInstance}

theorem unfailed_of_ofContainers (unfailed : ofContainers containers ≠ .failed) :
    containers ≠ [] ∧ ∀ container ∈ containers, container.status ≠ .failed := by
  unfold ofContainers at unfailed
  by_cases empty : containers.isEmpty
  · simp [empty] at unfailed
  · rw [if_neg empty] at unfailed
    refine ⟨by simpa using empty, ?_⟩
    intro container member failed
    rw [if_pos (List.any_eq_true.mpr ⟨container, member, by simp [failed]⟩)] at unfailed
    exact unfailed rfl

theorem completed_of_ofContainers (completed : ofContainers containers = .completed) :
    containers ≠ [] ∧ ∀ container ∈ containers, container.status = .completed := by
  have notFailed : ofContainers containers ≠ .failed := by
    rw [completed]
    simp
  obtain ⟨present, unfailed⟩ := unfailed_of_ofContainers notFailed
  refine ⟨present, ?_⟩
  intro container member
  have settled : container.status.isTerminal = true := by
    by_contra unsettled
    have going : containers.any (fun container => !container.status.isTerminal) = true :=
      List.any_eq_true.mpr ⟨container, member, by simpa using unsettled⟩
    unfold ofContainers at completed
    rw [going] at completed
    split at completed
    · cases completed
    · split at completed <;> cases completed
  cases shape : container.status with
  | completed => rfl
  | failed => exact absurd shape (unfailed container member)
  | unknown | started => simp [shape, ContainerStatus.isTerminal] at settled

end WorkflowStatus

/-- A state run was cancelled or has the status of its containers. -/
def StateRun.BorneOut (stateRun : StateRun) : Prop :=
  stateRun.status = .cancelled ∨ stateRun.status = .ofContainers stateRun.containers

theorem StateRun.borneOut_refreshed {stateRun : StateRun} (going : stateRun.status = .started) :
    stateRun.refreshed.BorneOut := by
  refine .inr ?_
  rw [refreshed, if_pos going]

namespace StateRun.BorneOut

variable {stateRun : StateRun}

theorem ofContainers (borneOut : stateRun.BorneOut) (other : stateRun.status ≠ .cancelled) :
    .ofContainers stateRun.containers = stateRun.status := by
  rcases borneOut with cancelled | follows
  · exact absurd cancelled other
  · exact follows.symm

theorem not_created (borneOut : stateRun.BorneOut) : stateRun.status ≠ .created := by
  intro created
  have follows := borneOut.ofContainers (by simp [created])
  rw [created] at follows
  rcases WorkflowStatus.ofContainers_cases stateRun.containers with failed | started | completed
  · cases failed.symm.trans follows
  · cases started.symm.trans follows
  · cases completed.symm.trans follows

theorem completed (borneOut : stateRun.BorneOut) (done : stateRun.status = .completed) :
    stateRun.containers ≠ [] ∧
      ∀ container ∈ stateRun.containers, container.status = .completed := by
  refine WorkflowStatus.completed_of_ofContainers ?_
  rw [borneOut.ofContainers (by simp [done]), done]

theorem unfailed (borneOut : stateRun.BorneOut) (going : stateRun.status = .started) :
    ∀ container ∈ stateRun.containers, container.status ≠ .failed := by
  refine (WorkflowStatus.unfailed_of_ofContainers ?_).2
  rw [borneOut.ofContainers (by simp [going]), going]
  simp

end StateRun.BorneOut

def WorkflowRun.BorneOut (run : WorkflowRun) : Prop :=
  ∀ stateRun ∈ run.history, stateRun.BorneOut

namespace WorkflowRun

variable {run : WorkflowRun} {current changed : StateRun}

theorem BorneOut.withCurrent (borneOut : run.BorneOut) (new : changed.BorneOut) :
    (run.withCurrent changed).BorneOut := by
  intro stateRun member
  rcases List.mem_append.mp member with old | last
  · exact borneOut stateRun (List.dropLast_subset run.history old)
  · rw [List.mem_singleton.mp last]
    exact new

theorem withCurrent_current (last : run.current? = some current) :
    run.withCurrent current = run := by
  obtain ⟨front, shape⟩ := List.getLast?_eq_some_iff.mp last
  rw [withCurrent, shape, List.dropLast_concat, ← shape]

end WorkflowRun

/-! ## Moves -/

namespace Session

variable [ContainerService σ] [RunRepository ρ]

theorem keeps_borneOut : Keeps σ ρ WorkflowRun.BorneOut := by
  intro before after move borneOut
  cases move with
  | launchFirst | launchNext | launchAgain =>
      intro stateRun member
      rcases List.mem_append.mp member with old | new
      · exact borneOut stateRun old
      · rw [List.mem_singleton.mp new]
        exact .inr rfl
  | poll _ _ going => exact borneOut.withCurrent (StateRun.borneOut_refreshed going)
  | stop _ _ => exact borneOut.withCurrent (.inl rfl)
  | complete | cancel | giveUp | save | pause | interfere | recount => exact borneOut

variable {session : Session σ ρ} {current : StateRun} {fault : ContainerFault}

omit [RunRepository ρ] in
theorem polled_of_failed_poll (borneOut : session.run.BorneOut)
    (running : session.running? = some current)
    (failed : (ContainerService.poll current.containerIds session.service).1 = .error fault) :
    (session.polled current).run = session.run := by
  obtain ⟨last, going⟩ := running?_eq_some_iff.mp running
  have follows := (borneOut current (List.mem_of_getLast? last)).ofContainers (by simp [going])
  have same : { current with containers := session.awaited current }.refreshed = current := by
    simp only [awaited, going, failed, if_true, StateRun.refreshed, follows]
    rw [← going]
  rw [polled_run going, same, WorkflowRun.withCurrent_current last]

theorem history_of_failed_poll (borneOut : session.run.BorneOut)
    (running : session.running? = some current)
    (failed : (ContainerService.poll current.containerIds session.service).1 = .error fault) :
    (session.operate .refresh).2.run.history = session.run.history := by
  rw [operate_refresh, perform_refresh]
  split
  · rfl
  · rw [running]
    change (session.polled current).run.history = session.run.history
    rw [polled_of_failed_poll borneOut running failed]

end Session

/-- Whatever happens to a run, each of its state runs was cancelled or has the status of the
containers that it holds; and a poll that fails, at any moment of any operation, changes none of
them. -/
theorem statuses_borne_out [ContainerService σ] [RunRepository ρ] [LawfulRunRepository ρ]
    (id environmentId runner : String) (workflow : Workflow) (surroundings : Surroundings σ ρ)
    (session : Session σ ρ)
    (begun : (Session.begin id environmentId workflow runner surroundings).1 = .ok session)
    (events : List (Event σ)) :
    let reached := (session.follow events).2
    (∀ stateRun ∈ reached.run.history,
      (stateRun.status = .cancelled ∨ stateRun.status = .ofContainers stateRun.containers) ∧
        stateRun.status ≠ .created ∧
        (stateRun.status = .completed → stateRun.containers ≠ [] ∧
          ∀ container ∈ stateRun.containers, container.status = .completed) ∧
        (stateRun.status = .started →
          ∀ container ∈ stateRun.containers, container.status ≠ .failed)) ∧
      ∀ moment, Session.Moves (fun _ _ => True) reached moment →
        ∀ current fault, moment.running? = some current →
          (ContainerService.poll current.containerIds moment.service).1 = .error fault →
            (moment.operate .refresh).2.run.history = moment.run.history := by
  intro reached
  have opened : session.run.BorneOut := by
    obtain ⟨_, rfl⟩ := Session.begin_ok begun
    intro stateRun member
    cases member
  have throughout : reached.Throughout WorkflowRun.BorneOut :=
    (Session.Throughout.begin begun opened).follow Session.keeps_borneOut events
  constructor
  · intro stateRun member
    have borneOut := throughout.here stateRun member
    exact ⟨borneOut, borneOut.not_created, borneOut.completed, borneOut.unfailed⟩
  · intro moment moves current fault running failed
    have here := (throughout.moves Session.keeps_borneOut moves).here
    exact Session.history_of_failed_poll here running failed

def Event.troubled : List (Event ScriptedContainers) :=
  [.operation .start, .meanwhile (fun service => service.forget "mock-1"), .operation .refresh,
    .operation .retry, .operation .cancelState, .reload "runner" .epoch, .operation .retry,
    .meanwhile (fun service => service.inject .get "throttled" (some 1))]

def Session.troubledSample : Session ScriptedContainers MemoryRepository :=
  ((Session.sample ScriptedContainers.fresh
    (⟨SortedMap.empty.insert "run" (.fresh "run" "environment" .sample Instant.epoch.next)⟩ :
      MemoryRepository)).follow Event.troubled).2

theorem statuses_borne_out_of_troubled :
    let reached := Session.troubledSample
    reached.run.history.map StateRun.status = [.failed, .cancelled, .started] ∧
      (∀ stateRun ∈ reached.run.history,
        stateRun.status = .cancelled ∨ stateRun.status = .ofContainers stateRun.containers) ∧
      ∃ current, reached.running? = some current ∧
        (ContainerService.poll current.containerIds reached.service).1 =
          .error (.poll "throttled") ∧
        (reached.operate .refresh).1 = .ok (.status .started) ∧
        (reached.operate .refresh).2.run.history = reached.run.history := by
  intro reached
  obtain ⟨borneOut, kept⟩ := statuses_borne_out "run" "environment" "runner" .sample
    ⟨ScriptedContainers.fresh, MemoryRepository.empty, .epoch⟩ _ rfl Event.troubled
  have going : reached.running?.map StateRun.containerIds = some ["mock-5", "mock-6"] := by
    decide +kernel
  obtain ⟨current, running, ids⟩ := Option.map_eq_some_iff.mp going
  have failed : (ContainerService.poll current.containerIds reached.service).1 =
      .error (.poll "throttled") := by
    rw [ids]
    decide +kernel
  exact ⟨by decide +kernel, fun stateRun member => (borneOut stateRun member).1, current, running,
    failed, by decide +kernel, kept reached .refl current _ running failed⟩

end PrivateComputation
