import Mathlib.Data.Prod.Basic
import PrivateComputation.Proofs.Session.Loop
import PrivateComputation.Proofs.Session.Stored

/-!
What a run to the end answers is so: the answer is the status of the workflow, in the session and in
the repository, and it is that of a cancellation exactly if one was asked for.
-/

namespace PrivateComputation

variable {σ ρ : Type} [ContainerService σ] [RunRepository ρ] [LawfulRunRepository ρ]

namespace Session

variable {session after final : Session σ ρ} {cancel : Nat → σ → Bool × σ}

omit [ContainerService σ] in
theorem saved_ok (passed : session.saved = (.ok (), after)) :
    after = session.saved.2 ∧ after.Stored := by
  have same : session.saved.2 = after := congrArg Prod.snd passed
  refine ⟨same.symm, ?_⟩
  rw [← same]
  exact stored_saved (congrArg Prod.fst passed)

omit [LawfulRunRepository ρ] in
theorem status_refresh (session : Session σ ρ) :
    ((refresh : SessionM σ ρ WorkflowStatus).perform session).2.run.status =
      session.run.status := by
  rw [perform_refresh]
  split
  · rfl
  · cases session.running? <;> rfl

structure CalledOff (session after : Session σ ρ) : Prop where
  status : after.run.status = .cancelled
  stored : after.Stored
  answers : after.cancelAnswers = session.cancelAnswers
  /-- A state run that is going on is marked as cancelled and its containers are asked to stop;
  nothing else is asked of the service. -/
  stops : ∀ current, session.running? = some current →
    after.run.current? = some { current with status := .cancelled } ∧
      after.service = (ContainerService.cancel current.containerIds session.service).2
  rests : session.running? = none →
    after.run.history = session.run.history ∧ after.service = session.service

theorem cancelWorkflow_ok
    (went : (cancelWorkflow : SessionM σ ρ Unit).perform session = (.ok (), after)) :
    session.CalledOff after := by
  have answers := cancelAnswers_cancelWorkflow session
  rw [went] at answers
  rw [perform_cancelWorkflow, perform_cancelState] at went
  split at went
  · simp at went
  · generalize found : session.running? = running at went
    cases running with
    | none =>
        obtain ⟨rfl, stored⟩ := saved_ok went
        refine ⟨rfl, stored, answers, ?_, fun _ => ⟨rfl, rfl⟩⟩
        intro current going
        simp [found] at going
    | some current =>
        dsimp only at went
        rcases saving : (session.stopped current).saved with ⟨_ | _, stopped⟩
        · simp [saving] at went
        · rw [saving] at went
          obtain ⟨rfl, _⟩ := saved_ok saving
          obtain ⟨rfl, stored⟩ := saved_ok went
          refine ⟨rfl, stored, answers, ?_, ?_⟩
          · intro other going
            cases found.symm.trans going
            exact ⟨List.getLast?_concat, rfl⟩
          · intro rests
            simp [found] at rests

/-- What a step comes to that does not call the workflow off: if it ends the workflow, the run is
stored. -/
structure GoesOn (after : Session σ ρ) : Prop where
  status : after.run.status ≠ .cancelled
  stored : after.run.status.isTerminal = true → after.Stored

omit [ContainerService σ] [LawfulRunRepository ρ] in
theorem goesOn_of_active (active : session.run.status.isTerminal = false) : session.GoesOn where
  status := by
    intro cancelled
    rw [cancelled] at active
    cases active
  stored := by simp [active]

omit [ContainerService σ] in
theorem goesOn_of_saved (passed : session.saved = (.ok (), after))
    (status : session.run.status ≠ .cancelled) : after.GoesOn := by
  obtain ⟨rfl, stored⟩ := saved_ok passed
  exact ⟨status, fun _ => stored⟩

theorem next_ok (went : (next : SessionM σ ρ Unit).perform session = (.ok (), after)) :
    after.GoesOn := by
  rw [perform_next] at went
  generalize (refresh : SessionM σ ρ WorkflowStatus).perform session = outcome at went
  rcases outcome with ⟨_ | _, refreshed⟩
  · cases went
  · dsimp only at went
    cases last : refreshed.run.current? with
    | none =>
        rw [last] at went
        cases went
    | some current =>
        rw [last] at went
        dsimp only at went
        split at went
        next finished =>
          cases follows : current.definition.successor with
          | none =>
              rw [follows] at went
              exact goesOn_of_saved went (by simp [withStatus])
          | some stateName =>
              cases known : refreshed.run.workflow.state? stateName with
              | none =>
                  simp only [follows, known] at went
                  cases went
              | some definition =>
                  simp only [follows, known] at went
                  refine goesOn_of_saved went ?_
                  change refreshed.run.status ≠ .cancelled
                  rw [finished.1]
                  simp
        next => simp at went

theorem retry_ok (went : (retry : SessionM σ ρ Unit).perform session = (.ok (), after)) :
    after.GoesOn := by
  rw [perform_retry] at went
  split at went
  next => simp at went
  next active =>
    have going : session.GoesOn := goesOn_of_active (Bool.eq_false_iff.mpr active)
    cases last : session.run.current? with
    | none => simp [last] at went
    | some current =>
        simp only [last] at went
        split at went
        next =>
          split at went
          next =>
            cases known : session.run.workflow.state? current.stateName with
            | none => simp [known] at went
            | some definition =>
                simp only [known] at went
                exact goesOn_of_saved went going.status
          next => simp at went
        next =>
          cases went
          exact going

theorem round_ok
    (went : (round cancel : SessionM σ ρ Unit).perform session = (.ok (), after))
    (active : session.run.status.isTerminal = false) :
    (session.cancelAnswer cancel = true ∧ (session.asked cancel).CalledOff after) ∨
      (session.cancelAnswer cancel = false ∧ after.GoesOn) := by
  rw [perform_round] at went
  split at went
  next asked => exact .inl ⟨asked, cancelWorkflow_ok went⟩
  next declined =>
    refine .inr ⟨Bool.eq_false_iff.mpr declined, ?_⟩
    rw [proceeded] at went
    have same := @answer_refresh _ _ _ _ (session.asked cancel)
    have status := status_refresh (session.asked cancel)
    generalize (refresh : SessionM σ ρ WorkflowStatus).perform (session.asked cancel) = outcome
      at went same status
    rcases outcome with ⟨_ | answer, refreshed⟩
    · simp at went
    · have going : refreshed.GoesOn := goesOn_of_active (by
        rw [show refreshed.run.status = session.run.status from status]
        exact active)
      dsimp only at went
      split at went
      · cases went
        exact going
      · cases last : refreshed.run.current? with
        | none => simp [last] at went
        | some current =>
            simp only [last] at went
            cases shape : current.status with
            | completed =>
                rw [shape] at went
                exact next_ok went
            | created | started =>
                rw [shape] at went
                cases went
                exact ⟨going.status, going.stored⟩
            | failed | cancelled =>
                rw [shape] at went
                dsimp only at went
                split at went
                · exact goesOn_of_saved went (by simp [withStatus])
                · exact retry_ok went

/-- What some rounds come to that have ended the workflow. -/
structure Concluded (cancel : Nat → σ → Bool × σ) (session : Session σ ρ)
    (status : WorkflowStatus) (final : Session σ ρ) : Prop where
  terminal : status.isTerminal = true
  same : final.run.status = status
  stored : final.Stored
  asked : (status ≠ .cancelled ∧ ∃ rounds,
        final.cancelAnswers = session.cancelAnswers ++ List.replicate rounds false) ∨
      (status = .cancelled ∧ ∃ earlier,
        final.cancelAnswers =
            session.cancelAnswers ++ (List.replicate earlier false ++ [true]) ∧
          (session.askedAfter cancel earlier).CalledOff final)

omit [LawfulRunRepository ρ] in
theorem Concluded.after_round {status : WorkflowStatus}
    (concluded : after.Concluded cancel status final)
    (active : session.run.status.isTerminal = false)
    (went : (round cancel : SessionM σ ρ Unit).perform session = (.ok (), after))
    (answers : after.cancelAnswers = session.cancelAnswers ++ [false]) :
    session.Concluded cancel status final where
  terminal := concluded.terminal
  same := concluded.same
  stored := concluded.stored
  asked := by
    rcases concluded.asked with ⟨other, rounds, asked⟩ | ⟨cancelled, earlier, asked, calledOff⟩
    · refine .inl ⟨other, rounds + 1, ?_⟩
      rw [asked, answers, List.replicate_succ, List.append_assoc, List.singleton_append]
    · refine .inr ⟨cancelled, earlier + 1, ?_, ?_⟩
      · rw [asked, answers, List.replicate_succ, List.append_assoc, List.singleton_append,
          List.cons_append]
      · rw [askedAfter_succ active went]
        exact calledOff

theorem rounds_concluded {count : Nat} {status : WorkflowStatus}
    (active : session.run.status.isTerminal = false)
    (went : (rounds cancel count : SessionM σ ρ (Option WorkflowStatus)).perform session =
      (.ok (some status), final)) :
    session.Concluded cancel status final := by
  induction count generalizing session with
  | zero => simp [perform_rounds_zero, active] at went
  | succ count ih =>
      rcases outcome : (round cancel : SessionM σ ρ Unit).perform session with ⟨_ | _, after⟩
      · simp [perform_rounds_succ, active, outcome] at went
      · rw [rounds_step active outcome] at went
        have answers := cancelAnswers_round session cancel
        rw [outcome] at answers
        rcases round_ok outcome active with ⟨asked, calledOff⟩ | ⟨declined, going⟩
        · have terminal : after.run.status.isTerminal = true := by rw [calledOff.status]; rfl
          rw [rounds_terminal terminal, calledOff.status] at went
          cases went
          refine ⟨rfl, calledOff.status, calledOff.stored, .inr ⟨rfl, 0, ?_, ?_⟩⟩
          · rw [answers, asked]
            rfl
          · exact calledOff
        · rw [declined] at answers
          by_cases terminal : after.run.status.isTerminal = true
          · rw [rounds_terminal terminal] at went
            cases went
            exact ⟨terminal, rfl, going.stored terminal, .inl ⟨going.status, 1, answers⟩⟩
          · have goesOn := Bool.eq_false_iff.mpr terminal
            exact (ih goesOn went).after_round active outcome answers

omit [LawfulRunRepository ρ] in
theorem Concluded.cancelled_iff {status : WorkflowStatus}
    (concluded : session.Concluded cancel status final) (fresh : session.cancelAnswers = []) :
    status = .cancelled ↔ true ∈ final.cancelAnswers := by
  rcases concluded.asked with ⟨other, _, asked⟩ | ⟨cancelled, _, asked, _⟩
  · simp [other, asked, fresh]
  · simp [cancelled, asked]

theorem runToEnd_concluded {maxRounds : Nat} {status : WorkflowStatus}
    (active : session.run.status.isTerminal = false)
    (went : (runToEnd cancel maxRounds : SessionM σ ρ (Option WorkflowStatus)).perform session =
      (.ok (some status), final)) :
    ∃ opened : Session σ ρ, opened.cancelAnswers = [] ∧
      opened.Concluded cancel status final ∧
      ∀ earlier, session.questioned cancel earlier = opened.askedAfter cancel earlier := by
  rcases runToEnd_opens active cancel with ⟨fault, failed, stuck⟩ | ⟨opened, goes, fresh, same⟩
  · cases (stuck maxRounds).symm.trans went
  · exact ⟨opened, fresh, rounds_concluded goes ((same maxRounds).symm.trans went),
      questioned_of_opens same⟩

end Session

/-- A run to the end that answers has told the truth: its answer is what became of the workflow, in
the session and in the repository, and says that the workflow was cancelled exactly if that was
asked for. A request to cancel is the last thing asked, and no container is launched any more. -/
theorem truthful_answer (id environmentId runner : String) (workflow : Workflow)
    (surroundings : Surroundings (Recorded σ) ρ) (session : Session (Recorded σ) ρ)
    (begun : (Session.begin id environmentId workflow runner surroundings).1 = .ok session)
    (events : List (Event (Recorded σ))) (cancel : Nat → Recorded σ → Bool × Recorded σ)
    (maxRounds : Nat) (reached final : Session (Recorded σ) ρ) (status : WorkflowStatus)
    (followed : (session.follow events).2 = reached)
    (active : reached.run.status.isTerminal = false)
    (answered :
      (Session.runToEnd cancel maxRounds : SessionM _ _ (Option WorkflowStatus)).perform reached =
        (.ok (some status), final)) :
    status.isTerminal = true ∧
    final.run.status = status ∧
    RunRepository.read id final.repository = .ok final.run ∧
    (status = .completed →
      ∃ last, final.run.current? = some last ∧ last.status = .completed ∧
        last.definition.successor = none) ∧
    (status = .failed →
      ∃ last, final.run.current? = some last ∧ last.status = .failed ∧
        last.definition.retryCount ≤ last.retryNumber) ∧
    (status = .cancelled ↔ true ∈ final.cancelAnswers) ∧
    (status = .cancelled →
      ∃ earlier, final.cancelAnswers = List.replicate earlier false ++ [true] ∧
        let moment := reached.questioned cancel earlier
        moment.cancelAnswers = final.cancelAnswers ∧
        (moment.running? = none →
          final.run.history = moment.run.history ∧
            final.service.requests = moment.service.requests) ∧
        ∀ current, moment.running? = some current →
          final.run.current? = some { current with status := .cancelled } ∧
            final.service.requests =
              moment.service.requests ++ [.cancel current.containerIds]) := by
  obtain ⟨opens, fresh⟩ := Session.sound_begin begun
  obtain ⟨sound, identity⟩ := Session.sound_follow opens events
  rw [followed] at sound identity
  have moves : Session.Moves (fun _ _ => True) reached final := by
    have went := Session.operate_moves (Session.within_any (.runToEnd cancel maxRounds)) reached
    rw [Session.operate_runToEnd, answered] at went
    exact went
  have justified := (moves.sound sound).coherent.justified
  obtain ⟨opened, none, concluded, questions⟩ := Session.runToEnd_concluded active answered
  have same : final.run.id = id := by
    obtain ⟨_, begins⟩ := fresh
    rw [moves.continues.identity.id, identity.id, begins]
    rfl
  refine ⟨concluded.terminal, concluded.same, same ▸ concluded.stored, ?_, ?_,
    concluded.cancelled_iff none, ?_⟩
  · intro completed
    exact justified.completed (concluded.same.trans completed)
  · intro failed
    exact justified.failed (concluded.same.trans failed)
  · intro cancelled
    rcases concluded.asked with ⟨other, _⟩ | ⟨_, earlier, asked, calledOff⟩
    · exact absurd cancelled other
    · rw [← questions] at calledOff
      rw [none, List.nil_append] at asked
      refine ⟨earlier, asked, calledOff.answers.symm, ?_, ?_⟩
      · intro rests
        obtain ⟨history, service⟩ := calledOff.rests rests
        exact ⟨history, congrArg Recorded.requests service⟩
      · intro current going
        obtain ⟨marked, service⟩ := calledOff.stops current going
        exact ⟨marked, congrArg Recorded.requests service⟩

def Recorded.hold (recorded : Recorded ScriptedContainers) : Recorded ScriptedContainers :=
  { recorded with service := recorded.service.setAll .started }

/-- The third question is answered by a request to cancel, while two containers are going on. -/
theorem truthful_answer_of_third_question :
    let reached := (Session.recordedSample.follow [.meanwhile Recorded.hold]).2
    let cancel : Nat → Recorded ScriptedContainers → Bool × Recorded ScriptedContainers :=
      fun count service => (count == 2, service)
    let outcome :=
      (Session.runToEnd cancel 5 : SessionM _ _ (Option WorkflowStatus)).perform reached
    let final := outcome.2
    reached.run.status.isTerminal = false ∧
      outcome.1 = .ok (some .cancelled) ∧
      final.cancelAnswers = [false, false, true] ∧
      final.service.requests =
        [.create "small"
            ["runner prepare --exe_args=\"left\"", "runner prepare --exe_args=\"right\""] none,
          .poll ["mock-1", "mock-2"], .poll ["mock-1", "mock-2"],
          .cancel ["mock-1", "mock-2"]] ∧
      final.run.status = .cancelled ∧
      RunRepository.read "run" final.repository = .ok final.run := by
  intro reached cancel outcome final
  have active : reached.run.status.isTerminal = false := by decide +kernel
  have answered : outcome.1 = .ok (some .cancelled) := by decide +kernel
  obtain ⟨_, same, stored, _⟩ := truthful_answer "run" "environment" "runner" .sample
    ⟨⟨.fresh, []⟩, .empty, .epoch⟩ .recordedSample rfl [.meanwhile Recorded.hold] cancel 5
    reached final .cancelled rfl active (Prod.fst_eq_iff.mp answered)
  exact ⟨active, answered, by decide +kernel, by decide +kernel, same, stored⟩

end PrivateComputation
