import PrivateComputation.Proofs.Session.History
import PrivateComputation.Proofs.Workflow.RoundTrip
import PrivateComputation.Proofs.Workflow.Walk

/-!
A run of an accepted workflow finds every state that it goes to, whatever becomes of its containers
and of writes to the repository.
-/

namespace PrivateComputation

variable {σ ρ α β : Type}

namespace Session

/-- A coherent run of a workflow that would be accepted. -/
structure Grounded (session : Session σ ρ) : Prop where
  coherent : session.Coherent
  accepted : session.run.workflow.fault? = none

namespace Grounded

variable {session : Session σ ρ} {current : StateRun}

theorem state?_current (grounded : session.Grounded)
    (last : session.run.current? = some current) :
    session.run.workflow.state? current.stateName = some current.definition :=
  grounded.coherent.defined current (List.mem_of_getLast? last)

theorem state?_successor (grounded : session.Grounded)
    (last : session.run.current? = some current) {following : String}
    (follows : current.definition.successor = some following) :
    ∃ definition, session.run.workflow.state? following = some definition :=
  Workflow.state?_of_successor grounded.accepted (grounded.state?_current last) follows

variable [ContainerService σ] [RunRepository ρ]

theorem moves {before after : Session σ ρ} (grounded : before.Grounded)
    (moves : Moves (fun _ _ => True) before after) : after.Grounded := by
  induction moves with
  | refl => exact grounded
  | tail _ move ih =>
      exact ⟨move.coherent ih.coherent, move.continues.identity.workflow ▸ ih.accepted⟩

end Grounded

/-! ## Answers of operations -/

def Finds (answer : Except SessionFault α) : Prop :=
  ∀ name, answer ≠ .error (.unknownState name)

theorem finds_ok (value : α) : Finds (.ok value) := by
  intro name same
  cases same

theorem finds_refusal (session : Session σ ρ) (operation : String) :
    Finds (.error (session.refusal operation) : Except SessionFault α) := by
  intro name same
  cases same

theorem finds_terminal (status : WorkflowStatus) :
    Finds (.error (.terminal status) : Except SessionFault α) := by
  intro name same
  cases same

theorem finds_noCurrentState : Finds (.error .noCurrentState : Except SessionFault α) := by
  intro name same
  cases same

theorem finds_overflow : Finds (.error .overflow : Except SessionFault α) := by
  intro name same
  cases same

theorem Finds.failed {fault : SessionFault} (finds : Finds (.error fault : Except SessionFault α)) :
    Finds (.error fault : Except SessionFault β) := by
  intro name same
  cases same
  exact finds name rfl

theorem Finds.map {answer : Except SessionFault α} (finds : Finds answer) (view : α → β) :
    Finds (answer.map view) := by
  cases answer with
  | error fault => exact finds.failed
  | ok value => exact finds_ok (view value)

theorem finds_saved [RunRepository ρ] (session : Session σ ρ) : Finds session.saved.1 := by
  intro name same
  rw [saved] at same
  cases written : (RunRepository.update session.touched.run session.repository).1 with
  | error fault => simp [written, Except.mapError] at same
  | ok value => simp [written, Except.mapError] at same

section Operations

variable [ContainerService σ] [RunRepository ρ] {session : Session σ ρ}

theorem finds_start (grounded : session.Grounded) :
    Finds ((start : SessionM σ ρ Unit).perform session).1 := by
  rw [perform_start]
  split
  · obtain ⟨definition, known⟩ := Workflow.state?_startsAt grounded.accepted
    rw [known]
    exact finds_saved _
  · exact finds_refusal _ _

theorem finds_refresh (session : Session σ ρ) :
    Finds ((refresh : SessionM σ ρ WorkflowStatus).perform session).1 := by
  rw [perform_refresh]
  split
  · exact finds_ok _
  · cases session.running? with
    | none => exact finds_ok _
    | some current => exact (finds_saved _).map _

theorem finds_next (grounded : session.Grounded) :
    Finds ((next : SessionM σ ρ Unit).perform session).1 := by
  rw [perform_next]
  have refreshes := finds_refresh session
  have polled := grounded.moves (refresh_moves _ session)
  generalize (refresh : SessionM σ ρ WorkflowStatus).perform session = outcome
    at refreshes polled ⊢
  rcases outcome with ⟨fault | _, after⟩
  · exact refreshes.failed
  · dsimp only at polled ⊢
    cases last : after.run.current? with
    | none => exact finds_refusal _ _
    | some current =>
        dsimp only
        split
        · cases follows : current.definition.successor with
          | none => exact finds_saved _
          | some following =>
              obtain ⟨definition, known⟩ := polled.state?_successor last follows
              dsimp only
              rw [known]
              exact finds_saved _
        · exact finds_refusal _ _

theorem finds_cancelState (session : Session σ ρ) :
    Finds ((cancelState : SessionM σ ρ Unit).perform session).1 := by
  rw [perform_cancelState]
  cases session.running? with
  | none => exact finds_ok _
  | some current => exact finds_saved _

theorem finds_cancelWorkflow (session : Session σ ρ) :
    Finds ((cancelWorkflow : SessionM σ ρ Unit).perform session).1 := by
  rw [perform_cancelWorkflow]
  split
  · exact finds_terminal _
  · have stops := finds_cancelState session
    generalize (cancelState : SessionM σ ρ Unit).perform session = outcome at stops ⊢
    rcases outcome with ⟨fault | _, after⟩
    · exact stops
    · exact finds_saved _

theorem finds_retry (grounded : session.Grounded) :
    Finds ((retry : SessionM σ ρ Unit).perform session).1 := by
  rw [perform_retry]
  split
  · exact finds_terminal _
  · cases last : session.run.current? with
    | none => exact finds_noCurrentState
    | some current =>
        dsimp only
        split
        · split
          · rw [grounded.state?_current last]
            exact finds_saved _
          · exact finds_overflow
        · exact finds_ok _

theorem finds_waitForState (session : Session σ ρ) (polls : Nat) :
    Finds ((waitForState polls : SessionM σ ρ (Option WorkflowStatus)).perform session).1 := by
  induction polls generalizing session with
  | zero => exact finds_ok _
  | succ polls ih =>
      rw [perform_waitForState_succ]
      have refreshes := finds_refresh session
      generalize (refresh : SessionM σ ρ WorkflowStatus).perform session = outcome
        at refreshes ⊢
      rcases outcome with ⟨fault | status, after⟩
      · exact refreshes.failed
      · dsimp only
        cases after.run.current? with
        | none => exact finds_noCurrentState
        | some current =>
            dsimp only
            split
            · exact finds_ok _
            · exact ih after.paused

theorem finds_round (grounded : session.Grounded) (cancel : Nat → σ → Bool × σ) :
    Finds ((round cancel : SessionM σ ρ Unit).perform session).1 := by
  have asked : (session.asked cancel).Grounded := ⟨grounded.coherent, grounded.accepted⟩
  rw [perform_round]
  split
  · exact finds_cancelWorkflow _
  · rw [proceeded]
    have refreshes := finds_refresh (session.asked cancel)
    have polled := asked.moves (refresh_moves _ _)
    generalize (refresh : SessionM σ ρ WorkflowStatus).perform (session.asked cancel) = outcome
      at refreshes polled ⊢
    rcases outcome with ⟨fault | status, after⟩
    · exact refreshes.failed
    · dsimp only at polled ⊢
      split
      · exact finds_ok _
      · cases after.run.current? with
        | none => exact finds_noCurrentState
        | some current =>
            dsimp only
            cases current.status with
            | completed => exact finds_next polled
            | created | started => exact finds_ok _
            | failed | cancelled =>
                dsimp only
                split
                · exact finds_saved _
                · exact finds_retry polled

theorem finds_rounds (grounded : session.Grounded) (cancel : Nat → σ → Bool × σ)
    (count : Nat) :
    Finds ((rounds cancel count : SessionM σ ρ (Option WorkflowStatus)).perform session).1 := by
  induction count generalizing session with
  | zero => exact finds_ok _
  | succ count ih =>
      rw [perform_rounds_succ]
      split
      · exact finds_ok _
      · have goes := finds_round grounded cancel
        have moves : Moves (fun _ _ => True) session
            ((round cancel : SessionM σ ρ Unit).perform session).2 :=
          round_moves _ session (fun _ _ => trivial)
        have goesOn := grounded.moves moves
        generalize (round cancel : SessionM σ ρ Unit).perform session = outcome at goes goesOn ⊢
        rcases outcome with ⟨fault | _, after⟩
        · exact goes.failed
        · exact ih goesOn

theorem finds_runToEnd (grounded : session.Grounded) (cancel : Nat → σ → Bool × σ)
    (maxRounds : Nat) :
    Finds ((runToEnd cancel maxRounds : SessionM σ ρ (Option WorkflowStatus)).perform
      session).1 := by
  have recounted : ({ session with cancelAnswers := [] } : Session σ ρ).Grounded :=
    ⟨grounded.coherent, grounded.accepted⟩
  rw [perform_runToEnd]
  split
  · have starts := finds_start recounted
    have started := recounted.moves (start_moves _ _)
    generalize (start : SessionM σ ρ Unit).perform { session with cancelAnswers := [] } = outcome
      at starts started ⊢
    rcases outcome with ⟨fault | _, after⟩
    · exact starts.failed
    · exact finds_rounds started cancel maxRounds
  · exact finds_rounds recounted cancel maxRounds

theorem finds_operate (grounded : session.Grounded) (operation : Operation σ) :
    Finds (session.operate operation).1 := by
  cases operation with
  | start => exact operate_start session ▸ (finds_start grounded).map _
  | next => exact operate_next session ▸ (finds_next grounded).map _
  | retry => exact operate_retry session ▸ (finds_retry grounded).map _
  | cancelState => exact operate_cancelState session ▸ (finds_cancelState session).map _
  | cancelWorkflow => exact operate_cancelWorkflow session ▸ (finds_cancelWorkflow session).map _
  | refresh => exact operate_refresh session ▸ (finds_refresh session).map _
  | waitForState polls =>
      exact operate_waitForState session polls ▸ (finds_waitForState session polls).map _
  | runToEnd cancel maxRounds =>
      exact operate_runToEnd session cancel maxRounds ▸
        (finds_runToEnd grounded cancel maxRounds).map _

end Operations

variable [ContainerService σ] [RunRepository ρ]

theorem finds_react {session : Session σ ρ} (grounded : session.Grounded) (event : Event σ) :
    ∀ answer ∈ (session.react event).1, Finds answer := by
  cases event with
  | operation operation =>
      intro answer member
      rw [List.mem_singleton.mp member]
      exact finds_operate grounded operation
  | meanwhile change => simp [react]
  | reload runner now =>
      simp only [react, load]
      cases RunRepository.read session.run.id session.repository with
      | ok run => simp
      | error fault =>
          intro answer member
          rw [List.mem_singleton.mp member]
          intro name same
          cases same

variable [LawfulRunRepository ρ] {session : Session σ ρ}

theorem Sound.grounded (sound : session.Sound) (accepted : session.run.workflow.fault? = none)
    (events : List (Event σ)) :
    (session.follow events).2.Sound ∧ (session.follow events).2.Grounded := by
  obtain ⟨final, identity⟩ := sound_follow sound events
  exact ⟨final, final.coherent, identity.workflow ▸ accepted⟩

theorem finds_follow (sound : session.Sound) (accepted : session.run.workflow.fault? = none)
    (events : List (Event σ)) : ∀ answer ∈ (session.follow events).1, Finds answer := by
  induction events generalizing session with
  | nil => simp [follow]
  | cons event events ih =>
      intro answer member
      rcases List.mem_append.mp member with first | later
      · exact finds_react ⟨sound.coherent, accepted⟩ event answer first
      · obtain ⟨after, grounded⟩ := sound.grounded accepted [event]
        exact ih after grounded.accepted answer later

end Session

/-- Nothing that happens to a run of an accepted workflow is ever answered with an unknown state. -/
theorem no_unknown_state [ContainerService σ] [RunRepository ρ] [LawfulRunRepository ρ]
    (text : String) (workflow : Workflow) (accepted : Workflow.ofText text = .ok workflow)
    (id environmentId runner : String) (surroundings : Surroundings σ ρ) (session : Session σ ρ)
    (begun : (Session.begin id environmentId workflow runner surroundings).1 = .ok session)
    (events : List (Event σ)) (name : String) :
    .error (.unknownState name) ∉ (session.follow events).1 := by
  obtain ⟨sound, now, fresh⟩ := Session.sound_begin begun
  have known : session.run.workflow.fault? = none := by
    rw [fresh]
    exact Workflow.fault?_of_ofText accepted
  intro member
  exact Session.finds_follow sound known events _ member name rfl

def Workflow.beyond : Workflow :=
  let first : StateDefinition :=
    ⟨"task", "small", "prepare", ["left"], none, some "compute", false, none, 1⟩
  let second : StateDefinition :=
    ⟨"task", "large", "compute", ["all"], none, some "nowhere", true, none, 0⟩
  ⟨"prepare", (SortedMap.empty.insert "prepare" first).insert "compute" second, none⟩

def Session.beyondSample (repository : ρ) : Session ScriptedContainers ρ :=
  .takeUp (.fresh "run" "environment" .beyond Instant.epoch.next) "runner"
    ⟨.fresh, repository, Instant.epoch.next⟩

def Event.toTheEnd : List (Event ScriptedContainers) :=
  [.meanwhile (fun service => service.setDefault .failed), .operation .start, .operation .refresh,
    .meanwhile (fun service => service.setDefault .completed), .operation .retry,
    .operation .next, .reload "runner" .epoch, .operation .next, .operation .next,
    .operation .next]

theorem no_unknown_state_of_beyond :
    let begun := Session.begin "run" "environment" .beyond "runner"
      ⟨ScriptedContainers.fresh,
        (⟨.empty, [.passes, .passes, .passes, .passes, .passes, .fails .missing false]⟩ :
          Unreliable MemoryRepository), .epoch⟩
    let session := Session.beyondSample begun.2.repository
    Workflow.ofText Workflow.beyond.toText = .ok .beyond ∧
      Workflow.beyond.state? "nowhere" = none ∧
      begun.1 = .ok session ∧
      (session.follow Event.toTheEnd).2.run.status = .completed ∧
      (session.follow Event.toTheEnd).2.run.history.map
          (fun stateRun => (stateRun.stateName, stateRun.status)) =
        [("prepare", .failed), ("prepare", .completed), ("compute", .completed)] ∧
      ∀ name, .error (.unknownState name) ∉ (session.follow Event.toTheEnd).1 := by
  intro begun session
  have accepted : Workflow.ofText Workflow.beyond.toText = .ok .beyond :=
    Workflow.ofText_toText (by decide +kernel)
  have opened : begun.1 = .ok session := rfl
  exact ⟨accepted, by decide +kernel, opened, by decide +kernel, by decide +kernel,
    no_unknown_state _ .beyond accepted "run" "environment" "runner" _ session opened
      Event.toTheEnd⟩

end PrivateComputation
