import Mathlib.Algebra.Ring.Nat
import PrivateComputation.Proofs.Session.Underway
import PrivateComputation.Proofs.Workflow.Walk

/-!
A run to the end through states that come to an end takes no more rounds than the states may be run.
Every round uses up one state run, and a state is run once more than it may be retried at most.
-/

namespace PrivateComputation

def runsAllowed (states : List (String × Nat)) : Nat :=
  (states.map (fun state => state.2 + 1)).sum

theorem runsAllowed_cons (name : String) (retries : Nat) (states : List (String × Nat)) :
    runsAllowed ((name, retries) :: states) = retries + 1 + runsAllowed states := by
  rw [runsAllowed, List.map_cons, List.sum_cons]
  rfl

/-- The state runs that states come to, each with how often it may be retried, and the status in
which they leave the workflow. -/
inductive Course : List (String × Nat) → List StateRun → WorkflowStatus → Prop
  | failed {run : StateRun} {states : List (String × Nat)} (failed : run.status = .failed) :
      Course ((run.stateName, 0) :: states) [run] .failed
  | retried {run : StateRun} {retries : Nat} {states : List (String × Nat)}
      {runs : List StateRun} {status : WorkflowStatus} (failed : run.status = .failed)
      (more : Course ((run.stateName, retries) :: states) runs status) :
      Course ((run.stateName, retries + 1) :: states) (run :: runs) status
  | completed {run : StateRun} {retries : Nat} (completed : run.status = .completed) :
      Course [(run.stateName, retries)] [run] .completed
  | advanced {run : StateRun} {retries : Nat} {states : List (String × Nat)}
      {runs : List StateRun} {status : WorkflowStatus} (completed : run.status = .completed)
      (more : Course states runs status) :
      Course ((run.stateName, retries) :: states) (run :: runs) status

def runsOf (name : String) (runs : List StateRun) : List StateRun :=
  runs.filter (fun run => run.stateName = name)

/-- A state has been run as often as it may be, and has failed every time. -/
def Exhausted (state : String × Nat) (runs : List StateRun) : Prop :=
  (runsOf state.1 runs).length = state.2 + 1 ∧
    ∀ run ∈ runsOf state.1 runs, run.status = .failed

section RunsOf

variable {run : StateRun} {runs : List StateRun}

theorem runsOf_cons_self (run : StateRun) (runs : List StateRun) :
    runsOf run.stateName (run :: runs) = run :: runsOf run.stateName runs := by
  rw [runsOf, List.filter_cons_of_pos (by simp)]
  rfl

theorem runsOf_cons_of_ne {name : String} (other : name ≠ run.stateName) :
    runsOf name (run :: runs) = runsOf name runs := by
  rw [runsOf, List.filter_cons_of_neg (by simpa using other.symm)]
  rfl

theorem exhausted_cons_of_ne {state : String × Nat} (other : state.1 ≠ run.stateName) :
    Exhausted state (run :: runs) ↔ Exhausted state runs := by
  rw [Exhausted, Exhausted, runsOf_cons_of_ne other]

theorem exists_exhausted_cons {states : List (String × Nat)}
    (fresh : run.stateName ∉ states.map Prod.fst) :
    (∃ state ∈ states, Exhausted state (run :: runs)) ↔
      ∃ state ∈ states, Exhausted state runs := by
  refine exists_congr fun state => and_congr_right fun member => ?_
  exact exhausted_cons_of_ne (ne_of_mem_of_not_mem (List.mem_map_of_mem member) fresh)

theorem exhausted_retried (failed : run.status = .failed) (retries : Nat) :
    Exhausted (run.stateName, retries + 1) (run :: runs) ↔
      Exhausted (run.stateName, retries) runs := by
  simp [Exhausted, runsOf_cons_self, failed]

theorem not_exhausted_of_completed (completed : run.status = .completed) (retries : Nat) :
    ¬Exhausted (run.stateName, retries) (run :: runs) := by
  rintro ⟨_, failed⟩
  rw [runsOf_cons_self] at failed
  have stuck := failed run List.mem_cons_self
  rw [completed] at stuck
  cases stuck

end RunsOf

namespace Course

variable {states : List (String × Nat)} {runs : List StateRun} {status : WorkflowStatus}

theorem status_eq (course : Course states runs status) :
    status = .completed ∨ status = .failed := by
  induction course with
  | failed => exact .inr rfl
  | completed => exact .inl rfl
  | retried _ _ ih | advanced _ _ ih => exact ih

theorem length_le (course : Course states runs status) :
    runs.length ≤ runsAllowed states := by
  induction course with
  | failed | completed =>
      rw [runsAllowed_cons, List.length_singleton]
      omega
  | retried _ _ ih =>
      rw [runsAllowed_cons] at ih ⊢
      rw [List.length_cons]
      omega
  | advanced _ _ ih =>
      rw [runsAllowed_cons, List.length_cons]
      omega

theorem runsOf_eq_nil (course : Course states runs status) {name : String}
    (absent : name ∉ states.map Prod.fst) : runsOf name runs = [] := by
  induction course with
  | failed | completed =>
      rw [runsOf_cons_of_ne (List.ne_of_not_mem_cons absent)]
      rfl
  | retried _ _ ih =>
      rw [runsOf_cons_of_ne (List.ne_of_not_mem_cons absent)]
      exact ih absent
  | advanced _ _ ih =>
      rw [runsOf_cons_of_ne (List.ne_of_not_mem_cons absent)]
      exact ih (List.not_mem_of_not_mem_cons absent)

section Distinct

variable (distinct : (states.map Prod.fst).Nodup)

include distinct

theorem length_runsOf_le (course : Course states runs status) {state : String × Nat}
    (member : state ∈ states) : (runsOf state.1 runs).length ≤ state.2 + 1 := by
  induction course generalizing state with
  | failed | completed =>
      refine Nat.le_trans (List.length_filter_le _ _) ?_
      simp
  | retried _ _ ih =>
      obtain ⟨fresh, _⟩ := List.nodup_cons.mp distinct
      rcases List.mem_cons.mp member with rfl | later
      · rw [runsOf_cons_self, List.length_cons]
        exact Nat.succ_le_succ (ih distinct List.mem_cons_self)
      · rw [runsOf_cons_of_ne (ne_of_mem_of_not_mem (List.mem_map_of_mem later) fresh)]
        exact ih distinct (List.mem_cons_of_mem _ later)
  | advanced _ more ih =>
      obtain ⟨fresh, rest⟩ := List.nodup_cons.mp distinct
      rcases List.mem_cons.mp member with rfl | later
      · rw [runsOf_cons_self, more.runsOf_eq_nil fresh]
        simp
      · rw [runsOf_cons_of_ne (ne_of_mem_of_not_mem (List.mem_map_of_mem later) fresh)]
        exact ih rest later

theorem failed_iff (course : Course states runs status) :
    status = .failed ↔ ∃ state ∈ states, Exhausted state runs := by
  induction course with
  | failed failed =>
      refine iff_of_true rfl ⟨_, List.mem_cons_self, ?_⟩
      simp [Exhausted, runsOf, failed]
  | retried failed more ih =>
      have fresh := (List.nodup_cons.mp distinct).1
      refine (ih distinct).trans ?_
      rw [List.exists_mem_cons_iff, List.exists_mem_cons_iff, exists_exhausted_cons fresh,
        exhausted_retried failed]
  | completed completed =>
      refine iff_of_false (by simp) ?_
      rintro ⟨state, member, exhausted⟩
      cases List.mem_singleton.mp member
      exact not_exhausted_of_completed completed _ exhausted
  | advanced completed more ih =>
      obtain ⟨fresh, rest⟩ := List.nodup_cons.mp distinct
      refine (ih rest).trans ?_
      rw [List.exists_mem_cons_iff, exists_exhausted_cons fresh,
        or_iff_right (not_exhausted_of_completed completed _)]

end Distinct

end Course

/-! ## The rounds -/

def retriesAllowed (states : List (String × StateDefinition)) : List (String × Nat) :=
  states.map (fun state => (state.1, state.2.retryCount.toNat))

theorem runsAllowed_retriesAllowed (states : List (String × StateDefinition)) :
    runsAllowed (retriesAllowed states) =
      (states.map (fun state => state.2.retryCount.toNat + 1)).sum := by
  rw [runsAllowed, retriesAllowed, List.map_map]
  rfl

theorem Workflow.Chain.cons {workflow : Workflow} {name : String}
    {states : List (String × StateDefinition)} (chain : workflow.Chain name states) :
    ∃ definition rest, states = (name, definition) :: rest ∧
      workflow.state? name = some definition := by
  cases chain with
  | last known _ => exact ⟨_, _, rfl, known⟩
  | step known _ _ => exact ⟨_, _, rfl, known⟩

variable {σ ρ : Type} [ContainerService σ] [RunRepository ρ]

namespace Session

/-- A poll of the state run that is going on will be answered, and will leave no container
unresolved. -/
def Settles (session : Session σ ρ) : Prop :=
  session.PollLeaves (fun container => container.status.isTerminal = true)

instance (session : Session σ ρ) : Decidable session.Settles :=
  inferInstanceAs (Decidable (session.PollLeaves _))

variable [DurableRunRepository ρ] {workflow : Workflow} {front : List StateRun}
  {current : StateRun} {session : Session σ ρ} {cancel : Nat → σ → Bool × σ}

theorem Underway.settles (underway : session.Underway workflow front current)
    (settles : session.Settles) :
    .ofContainers (session.awaited current) = WorkflowStatus.completed ∨
      .ofContainers (session.awaited current) = WorkflowStatus.failed := by
  have settled : .ofContainers (session.awaited current) ≠ WorkflowStatus.started := by
    by_cases going : current.status = .started
    · obtain ⟨answers, polled, resolved⟩ :=
        settles current (running?_eq_some_iff.mpr ⟨underway.current?, going⟩)
      rw [awaited, if_pos going, polled]
      exact WorkflowStatus.ofContainers_ne_started resolved
    · rw [awaited, if_neg going, ← underway.containers]
      exact going
  rcases WorkflowStatus.ofContainers_cases (session.awaited current) with
    failed | started | completed
  · exact .inr failed
  · exact absurd started settled
  · exact .inl completed

/-- The rounds from a state run on, if there are as many of them as the states may still be run. -/
theorem Underway.course {rest : List (String × StateDefinition)} {retries count : Nat}
    (underway : session.Underway workflow front current)
    (never : ∀ count service, (cancel count service).1 = false)
    (settles : ∀ rounds, (session.askedAfter cancel rounds).Settles)
    (chain : workflow.Chain current.stateName ((current.stateName, current.definition) :: rest))
    (left : current.retryNumber.toNat + retries = current.definition.retryCount.toNat)
    (enough : runsAllowed ((current.stateName, retries) :: retriesAllowed rest) ≤ count) :
    ∃ status runs final,
      (rounds cancel count : SessionM σ ρ (Option WorkflowStatus)).perform session =
          (.ok (some status), final) ∧
        final.run.history = front ++ runs ∧
        Course ((current.stateName, retries) :: retriesAllowed rest) runs status := by
  induction count generalizing session front current rest retries with
  | zero =>
      rw [runsAllowed_cons] at enough
      omega
  | succ count ih =>
      have declined : session.cancelAnswer cancel = false := never _ _
      have goesOn : ∀ {after : Session σ ρ},
          (Session.round cancel : SessionM σ ρ Unit).perform session = (.ok (), after) →
            ∀ rounds, (after.askedAfter cancel rounds).Settles := by
        intro after went rounds
        rw [← askedAfter_succ underway.active went]
        exact settles (rounds + 1)
      rcases (underway.asked cancel).settles (settles 0) with completed | failed
      · cases chain with
        | last _ ends =>
            obtain ⟨after, settled, went, same, done, finished, history⟩ :=
              underway.round_completes declined completed ends
            refine ⟨.completed, [settled], after, ?_, history, ?_⟩
            · rw [rounds_end underway.active went (by rw [finished]; rfl), finished]
            · rw [← same.stateName]
              exact .completed done
        | step _ follows chain =>
            obtain ⟨definition, others, rfl, known⟩ := chain.cons
            obtain ⟨after, settled, launched, went, same, done, rfl, rfl, zero, next⟩ :=
              underway.round_advances declined completed follows known
            have budget : runsAllowed (retriesAllowed
                ((launched.stateName, launched.definition) :: others)) ≤ count := by
              rw [runsAllowed_cons] at enough
              omega
            obtain ⟨status, runs, final, answered, history, course⟩ :=
              ih next (goesOn went) chain (by rw [zero]; simp) budget
            refine ⟨status, settled :: runs, final, ?_, by simp [history], ?_⟩
            · rw [rounds_step underway.active went, answered]
            · rw [← same.stateName]
              exact .advanced done course
      · by_cases exhausted : current.definition.retryCount ≤ current.retryNumber
        · obtain ⟨after, settled, went, same, stuck, finished, history⟩ :=
            underway.round_gives_up declined failed exhausted
          have none : retries = 0 := by
            have bound := UInt32.le_iff_toNat_le.mp exhausted
            omega
          refine ⟨.failed, [settled], after, ?_, history, ?_⟩
          · rw [rounds_end underway.active went (by rw [finished]; rfl), finished]
          · rw [← same.stateName, none]
            exact .failed stuck
        · obtain ⟨after, settled, launched, went, same, stuck, name, defined, number, next⟩ :=
            underway.round_retries declined failed exhausted
          have fewer := UInt32.not_le.mp exhausted
          obtain ⟨less, rfl⟩ : ∃ less, retries = less + 1 := by
            have below := UInt32.lt_iff_toNat_lt.mp fewer
            exact ⟨retries - 1, by omega⟩
          have counted : launched.retryNumber.toNat + less =
              launched.definition.retryCount.toNat := by
            rw [number, defined, toNat_add_one (toNat_add_one_lt_size fewer)]
            omega
          have budget : runsAllowed ((launched.stateName, less) :: retriesAllowed rest) ≤
              count := by
            rw [runsAllowed_cons] at enough ⊢
            omega
          rw [← name, ← defined] at chain
          obtain ⟨status, runs, final, answered, history, course⟩ :=
            ih next (goesOn went) chain counted budget
          rw [name, ← same.stateName] at course
          refine ⟨status, settled :: runs, final, ?_, by simp [history], ?_⟩
          · rw [rounds_step underway.active went, answered]
          · rw [← same.stateName]
            exact .retried stuck course

end Session

/-- If every poll settles the containers that are going on and nobody asks to cancel, a workflow
whose states come to an end is over after no more rounds than its states may be run. It has failed
exactly if some state failed as often as it may be run. -/
theorem finishes_within_budget [DurableRunRepository ρ] (id environmentId runner : String)
    (workflow : Workflow) (surroundings : Surroundings σ ρ) (session : Session σ ρ)
    (begun : (Session.begin id environmentId workflow runner surroundings).1 = .ok session)
    (states : List (String × StateDefinition))
    (chain : workflow.Chain workflow.startsAt states) (cancel : Nat → σ → Bool × σ)
    (never : ∀ count service, (cancel count service).1 = false)
    (settles : ∀ rounds, (session.questioned cancel rounds).Settles) (maxRounds : Nat)
    (enough : (states.map (fun state => state.2.retryCount.toNat + 1)).sum ≤ maxRounds) :
    ∃ status final,
      (Session.runToEnd cancel maxRounds : SessionM _ _ (Option WorkflowStatus)).perform session =
          (.ok (some status), final) ∧
        (status = .completed ∨ status = .failed) ∧
        (∀ state ∈ states,
          (runsOf state.1 final.run.history).length ≤ state.2.retryCount.toNat + 1) ∧
        final.run.history.length ≤
          (states.map (fun state => state.2.retryCount.toNat + 1)).sum ∧
        (status = .failed ↔ ∃ state ∈ states,
          (runsOf state.1 final.run.history).length = state.2.retryCount.toNat + 1 ∧
            ∀ run ∈ runsOf state.1 final.run.history, run.status = .failed) := by
  obtain ⟨first, rest, rfl, known⟩ := chain.cons
  obtain ⟨opened, launched, underway, name, rfl, zero, opens⟩ :=
    Session.opens_of_begin begun known cancel
  have asked : ∀ rounds, (opened.askedAfter cancel rounds).Settles := by
    intro rounds
    rw [← Session.questioned_of_opens opens]
    exact settles rounds
  have distinct : ((retriesAllowed ((workflow.startsAt, launched.definition) :: rest)).map
      Prod.fst).Nodup := by
    rw [retriesAllowed, List.map_map]
    exact chain.nodup
  rw [← runsAllowed_retriesAllowed] at enough ⊢
  rw [← name] at chain enough distinct ⊢
  obtain ⟨status, runs, final, answered, history, course⟩ :=
    underway.course never asked chain (by rw [zero]; simp) enough
  rw [List.nil_append] at history
  refine ⟨status, final, (opens maxRounds).trans answered, course.status_eq, ?_, ?_, ?_⟩
  · intro state member
    rw [history]
    exact course.length_runsOf_le distinct (List.mem_map_of_mem member)
  · rw [history]
    exact course.length_le
  · rw [history]
    refine (course.failed_iff distinct).trans ?_
    simp only [retriesAllowed, List.mem_map, exists_exists_and_eq_and, Exhausted]

def ScriptedContainers.stumbling : ScriptedContainers :=
  (ScriptedContainers.fresh.inject .create "no capacity" (some 1)).setStatus "mock-3" .failed

def Session.stumblingSample : Session ScriptedContainers MemoryRepository :=
  .sample .stumbling
    ⟨SortedMap.empty.insert "run" (.fresh "run" "environment" .sample Instant.epoch.next)⟩

theorem finishes_within_budget_of_stumbling :
    let never : Nat → ScriptedContainers → Bool × ScriptedContainers :=
      fun _ service => (false, service)
    ∃ states, Workflow.sample.Chain "prepare" states ∧
      (∀ rounds, (Session.stumblingSample.questioned never rounds).Settles) ∧
      ∃ final,
        (Session.runToEnd never 3 : SessionM _ _ (Option WorkflowStatus)).perform
            .stumblingSample = (.ok (some .failed), final) ∧
          final.run.history.map (fun run => (run.stateName, run.status)) =
            [("prepare", .failed), ("prepare", .completed), ("compute", .failed)] ∧
          ∃ state ∈ states,
            (runsOf state.1 final.run.history).length = state.2.retryCount.toNat + 1 ∧
              ∀ run ∈ runsOf state.1 final.run.history, run.status = .failed := by
  intro never
  have chain : Workflow.sample.Chain "prepare" _ := .step rfl rfl (.last rfl rfl)
  let outcome := (Session.runToEnd never 3 : SessionM _ _ (Option WorkflowStatus)).perform
    .stumblingSample
  have failed : outcome = (.ok (some .failed), outcome.2) :=
    Prod.fst_eq_iff.mp (by decide +kernel)
  have settles : ∀ rounds, (Session.stumblingSample.questioned never rounds).Settles :=
    Session.forall_questioned failed (by decide +kernel)
  obtain ⟨status, final, answered, _, _, _, exhausted⟩ :=
    finishes_within_budget "run" "environment" "runner" .sample ⟨.stumbling, .empty, .epoch⟩
      .stumblingSample rfl _ chain never (fun _ _ => rfl) settles 3 (by decide)
  cases failed.symm.trans answered
  exact ⟨_, chain, settles, _, failed, by decide +kernel, exhausted.mp rfl⟩

end PrivateComputation
