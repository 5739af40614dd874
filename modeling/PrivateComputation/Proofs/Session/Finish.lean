import PrivateComputation.Proofs.Session.Budget

/-!
Which workflows a run to the end finishes when nothing goes wrong: those whose walk does not come
back to a state. A round is then a step of the walk.
-/

namespace PrivateComputation

variable {σ ρ : Type} [ContainerService σ] [RunRepository ρ]

namespace Session

/-- The latest launch has gone well, and if its containers are going on, the next poll finds all of
them completed. -/
structure Completes (session : Session σ ρ) : Prop where
  launched : ∀ current, session.run.current? = some current →
    current.containers ≠ [] ∧ ∀ container ∈ current.containers, container.status ≠ .failed
  polled : session.PollLeaves (fun container => container.status = .completed)

instance (session : Session σ ρ) : Decidable session.Completes :=
  decidable_of_iff
    ((∀ current ∈ session.run.current?, current.containers ≠ [] ∧
        ∀ container ∈ current.containers, container.status ≠ .failed) ∧
      session.PollLeaves (fun container => container.status = .completed))
    ⟨fun ⟨launched, polled⟩ => ⟨launched, polled⟩, fun completes => ⟨completes.1, completes.2⟩⟩

variable [DurableRunRepository ρ] {workflow : Workflow} {front : List StateRun}
  {current : StateRun} {session : Session σ ρ} {cancel : Nat → σ → Bool × σ}

omit [ContainerService σ] [RunRepository ρ] [DurableRunRepository ρ] in
theorem takeAnswers_ne_nil {containers : List ContainerInstance} (present : containers ≠ [])
    (answers : List (Option ContainerInstance)) : takeAnswers containers answers ≠ [] := by
  cases containers with
  | nil => contradiction
  | cons container containers => cases answers <;> simp [takeAnswers]

theorem Underway.completes (underway : session.Underway workflow front current)
    (completes : session.Completes) :
    .ofContainers (session.awaited current) = WorkflowStatus.completed := by
  obtain ⟨present, unfailed⟩ := completes.launched current underway.current?
  by_cases going : current.status = .started
  · obtain ⟨answers, polled, done⟩ :=
      completes.polled current (running?_eq_some_iff.mpr ⟨underway.current?, going⟩)
    rw [awaited, if_pos going, polled]
    exact WorkflowStatus.ofContainers_of_completed (takeAnswers_ne_nil present answers) done
  · rw [awaited, if_neg going]
    rcases WorkflowStatus.ofContainers_cases current.containers with failed | started | completed
    · exact absurd failed (WorkflowStatus.ofContainers_ne_failed present unfailed)
    · exact absurd (underway.containers.trans started) going
    · exact completed

/-- Rounds in which nothing goes wrong go along the walk. -/
theorem Underway.walk (underway : session.Underway workflow front current)
    (accepted : workflow.fault? = none) (never : ∀ count service, (cancel count service).1 = false)
    (completes : ∀ rounds, (session.askedAfter cancel rounds).Completes) (count : Nat) :
    ((rounds cancel count : SessionM σ ρ (Option WorkflowStatus)).perform session).1 =
      .ok (if workflow.walk current.stateName count = none then some .completed else none) := by
  induction count generalizing session front current with
  | zero =>
      rw [perform_rounds_zero, if_neg (by simp [underway.active]), if_neg (by simp [Workflow.walk])]
  | succ count ih =>
      have declined : session.cancelAnswer cancel = false := never _ _
      have done := (underway.asked cancel).completes (completes 0)
      have step := Workflow.successor?_of_known underway.known
      cases follows : current.definition.successor with
      | none =>
          obtain ⟨after, settled, went, _, _, finished, _⟩ :=
            underway.round_completes declined done follows
          rw [rounds_end underway.active went (by rw [finished]; rfl), finished, Workflow.walk,
            step, follows]
          rfl
      | some name =>
          obtain ⟨definition, known⟩ :=
            Workflow.state?_of_successor accepted underway.known follows
          obtain ⟨after, settled, launched, went, _, _, rfl, _, _, next⟩ :=
            underway.round_advances declined done follows known
          have goesOn : ∀ rounds, (after.askedAfter cancel rounds).Completes := by
            intro rounds
            rw [← askedAfter_succ underway.active went]
            exact completes (rounds + 1)
          rw [rounds_step underway.active went, ih next goesOn, Workflow.walk, step, follows]
          rfl

end Session

/-- An accepted workflow is finished by a run to the end in which nothing goes wrong, in as many
rounds as it has states, if its walk does not come back to a state; if it does, no end state is on
the way and no number of rounds is enough. -/
theorem finishes_unless_comes_back [DurableRunRepository ρ] (text : String) (workflow : Workflow)
    (accepted : Workflow.ofText text = .ok workflow) :
    (¬workflow.ComesBack → ∃ steps, steps < workflow.states.size ∧ ∃ name definition,
      workflow.walk workflow.startsAt steps = some name ∧
        workflow.state? name = some definition ∧ definition.isEnd = true) ∧
    (workflow.ComesBack → ∀ steps name definition,
      workflow.walk workflow.startsAt steps = some name →
        workflow.state? name = some definition → definition.isEnd = false) ∧
    ∀ (id environmentId runner : String) (surroundings : Surroundings σ ρ) (session : Session σ ρ)
      (cancel : Nat → σ → Bool × σ),
      (Session.begin id environmentId workflow runner surroundings).1 = .ok session →
      (∀ count service, (cancel count service).1 = false) →
      (∀ rounds, (session.questioned cancel rounds).Completes) →
        let answer (maxRounds : Nat) := ((Session.runToEnd cancel maxRounds :
          SessionM σ ρ (Option WorkflowStatus)).perform session).1
        (¬workflow.ComesBack →
          ∀ maxRounds, workflow.states.size ≤ maxRounds → answer maxRounds = .ok (some .completed)) ∧
        (workflow.ComesBack → ∀ maxRounds, answer maxRounds = .ok none) := by
  have sound := Workflow.fault?_of_ofText accepted
  refine ⟨Workflow.exists_end_of_once sound, ?_, ?_⟩
  · intro back steps name definition visits known
    exact back.isEnd visits known
  · intro id environmentId runner surroundings session cancel begun never completes answer
    obtain ⟨first, known⟩ := Workflow.state?_startsAt sound
    obtain ⟨opened, launched, underway, name, _, _, opens⟩ :=
      Session.opens_of_begin begun known cancel
    have asked : ∀ rounds, (opened.askedAfter cancel rounds).Completes := by
      intro rounds
      rw [← Session.questioned_of_opens opens]
      exact completes rounds
    have walks : ∀ maxRounds, answer maxRounds =
        .ok (if workflow.walk workflow.startsAt maxRounds = none then some .completed
          else none) := by
      intro maxRounds
      rw [← name, ← underway.walk sound never asked maxRounds]
      exact congrArg Prod.fst (opens maxRounds)
    constructor
    · intro once maxRounds enough
      rw [walks, if_pos (Workflow.walk_none_of_le (Workflow.walk_of_once sound once) enough)]
    · intro back maxRounds
      rw [walks, if_neg (back.walk maxRounds)]

def Workflow.ring : Workflow :=
  let only : StateDefinition :=
    ⟨"task", "small", "prepare", ["left"], none, some "prepare", false, none, 0⟩
  ⟨"prepare", SortedMap.empty.insert "prepare" only, none⟩

def Session.ringSample : Session ScriptedContainers MemoryRepository :=
  .takeUp (.fresh "run" "environment" .ring Instant.epoch.next) "runner"
    ⟨.fresh, ⟨SortedMap.empty.insert "run"
      (.fresh "run" "environment" .ring Instant.epoch.next)⟩, Instant.epoch.next⟩

/-- A workflow that is accepted and has no end: after twelve rounds its state has been completed
twelve times. -/
theorem ring_without_end :
    Workflow.ofText Workflow.ring.toText = .ok .ring ∧
      (¬∃ steps, steps ≤ Workflow.ring.states.size ∧ ∃ name definition,
        Workflow.ring.walk Workflow.ring.startsAt steps = some name ∧
          Workflow.ring.state? name = some definition ∧ definition.isEnd = true) ∧
      (Session.begin "run" "environment" .ring "runner"
        ⟨ScriptedContainers.fresh, MemoryRepository.empty, .epoch⟩).1 = .ok .ringSample ∧
      let never : Nat → ScriptedContainers → Bool × ScriptedContainers :=
        fun _ service => (false, service)
      let outcome := (Session.runToEnd never 12 : SessionM _ _ (Option WorkflowStatus)).perform
        .ringSample
      outcome.1 = .ok none ∧
        outcome.2.run.history.dropLast.map StateRun.status = List.replicate 12 .completed := by
  have back : Workflow.ring.ComesBack :=
    ⟨0, 1, "prepare", Nat.one_pos, rfl, by decide +kernel⟩
  refine ⟨Workflow.ofText_toText (by decide +kernel), ?_, rfl, by decide +kernel,
    by decide +kernel⟩
  rintro ⟨steps, _, name, definition, visits, known, isEnd⟩
  rw [back.isEnd visits known] at isEnd
  cases isEnd

theorem finishes_unless_comes_back_of_sample :
    let session := Session.sample ScriptedContainers.fresh
      (⟨SortedMap.empty.insert "run" (.fresh "run" "environment" .sample Instant.epoch.next)⟩ :
        MemoryRepository)
    let never : Nat → ScriptedContainers → Bool × ScriptedContainers :=
      fun _ service => (false, service)
    Workflow.ofText Workflow.sample.toText = .ok .sample ∧ ¬Workflow.sample.ComesBack ∧
      (∀ rounds, (session.questioned never rounds).Completes) ∧
      (∃ steps, steps < Workflow.sample.states.size ∧ ∃ name definition,
        Workflow.sample.walk Workflow.sample.startsAt steps = some name ∧
          Workflow.sample.state? name = some definition ∧ definition.isEnd = true) ∧
      ((Session.runToEnd never 2 : SessionM _ _ (Option WorkflowStatus)).perform session).1 =
        .ok (some .completed) := by
  intro session never
  have accepted : Workflow.ofText Workflow.sample.toText = .ok .sample :=
    Workflow.ofText_toText (by decide +kernel)
  have once : ¬Workflow.sample.ComesBack := by
    intro back
    exact back.walk 2 (by decide +kernel)
  let outcome := (Session.runToEnd never 2 : SessionM _ _ (Option WorkflowStatus)).perform session
  have finished : outcome = (.ok (some .completed), outcome.2) :=
    Prod.fst_eq_iff.mp (by decide +kernel)
  have completes : ∀ rounds, (session.questioned never rounds).Completes :=
    Session.forall_questioned finished (by decide +kernel)
  obtain ⟨ends, _, runs⟩ := @finishes_unless_comes_back ScriptedContainers MemoryRepository _ _ _
    Workflow.sample.toText .sample accepted
  have answers := runs "run" "environment" "runner" ⟨.fresh, .empty, .epoch⟩ session never rfl
    (fun _ _ => rfl) completes
  exact ⟨accepted, once, completes, ends once, answers.1 once 2 (by decide)⟩

end PrivateComputation
