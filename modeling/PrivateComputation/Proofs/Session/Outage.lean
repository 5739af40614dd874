import PrivateComputation.Proofs.Containers.Unhindered
import PrivateComputation.Proofs.Session.BorneOut
import PrivateComputation.Proofs.Session.Loop
import PrivateComputation.Proofs.Session.Passing

/-!
Polls that fail for a while make no difference: a run to the end that meets them waits for them to
be over and then does what it would have done without them.
-/

namespace PrivateComputation

variable {ρ α : Type}

namespace Session

/-! ## Polls that never fail -/

def calmed (session : Session ScriptedContainers ρ) : Session ScriptedContainers ρ :=
  { session with service := session.service.unhindered }

def calmedOutcome (outcome : Except SessionFault α × Session ScriptedContainers ρ) :
    Except SessionFault α × Session ScriptedContainers ρ :=
  (outcome.1, outcome.2.calmed)

section Calmed

variable (session : Session ScriptedContainers ρ)

@[simp] theorem calmed_run : session.calmed.run = session.run := rfl

@[simp] theorem calmed_running? : session.calmed.running? = session.running? := rfl

@[simp] theorem calmed_refusal (operation : String) :
    session.calmed.refusal operation = session.refusal operation := rfl

theorem launched_calmed (stateName : String) (definition : StateDefinition)
    (retryNumber : UInt32) : session.calmed.launched stateName definition retryNumber =
      (session.launched stateName definition retryNumber).calmed := by
  have created := ScriptedContainers.create_unhindered definition.containerDefinition
    (definition.commands session.runner) session.service
  simp only [launched, calmed, ContainerService.create, created]

theorem polled_calmed (current : StateRun) (passes : (session.service.check .get).1 = none) :
    session.calmed.polled current = (session.polled current).calmed := by
  have polled := ScriptedContainers.poll_unhindered current.containerIds passes
  simp only [Session.polled, calmed, ContainerService.poll, polled]

theorem withStatus_calmed (status : WorkflowStatus) :
    session.calmed.withStatus status = (session.withStatus status).calmed := rfl

variable [RunRepository ρ]

theorem saved_calmed : session.calmed.saved = calmedOutcome session.saved := rfl

theorem start_calmed :
    (start : SessionM ScriptedContainers ρ Unit).perform session.calmed =
      calmedOutcome ((start : SessionM ScriptedContainers ρ Unit).perform session) := by
  rw [perform_start, perform_start, calmed_run, calmed_refusal]
  split
  · cases session.run.workflow.state? session.run.workflow.startsAt with
    | none => rfl
    | some definition =>
        dsimp only
        rw [launched_calmed, withStatus_calmed, saved_calmed]
  · rfl

theorem retry_calmed :
    (retry : SessionM ScriptedContainers ρ Unit).perform session.calmed =
      calmedOutcome ((retry : SessionM ScriptedContainers ρ Unit).perform session) := by
  rw [perform_retry, perform_retry, calmed_run]
  split
  · rfl
  · cases session.run.current? with
    | none => rfl
    | some current =>
        dsimp only
        split
        · split
          · cases session.run.workflow.state? current.stateName with
            | none => rfl
            | some definition =>
                dsimp only
                rw [launched_calmed, saved_calmed]
          · rfl
        · rfl

theorem refresh_calmed (passes : ∀ current, session.running? = some current →
      (session.service.check .get).1 = none) :
    (refresh : SessionM ScriptedContainers ρ WorkflowStatus).perform session.calmed =
      calmedOutcome
        ((refresh : SessionM ScriptedContainers ρ WorkflowStatus).perform session) := by
  rw [perform_refresh, perform_refresh, calmed_run, calmed_running?]
  split
  · rfl
  · cases running : session.running? with
    | none => rfl
    | some current =>
        dsimp only
        rw [polled_calmed session current (passes current running), saved_calmed]
        rfl

theorem next_calmed (rests : session.running? = none) :
    (next : SessionM ScriptedContainers ρ Unit).perform session.calmed =
      calmedOutcome ((next : SessionM ScriptedContainers ρ Unit).perform session) := by
  have refreshes := refresh_calmed session (by simp [rests])
  have still : (refresh : SessionM ScriptedContainers ρ WorkflowStatus).perform session =
      (.ok session.run.status, session) := by
    rw [perform_refresh, rests]
    split <;> rfl
  rw [perform_next, perform_next, refreshes, still]
  dsimp only [calmedOutcome]
  rw [calmed_run, calmed_refusal]
  cases session.run.current? with
  | none => rfl
  | some current =>
      dsimp only
      split
      · cases current.definition.successor with
        | none =>
            dsimp only
            rw [withStatus_calmed, saved_calmed, calmedOutcome]
        | some stateName =>
            dsimp only
            cases session.run.workflow.state? stateName with
            | none => rfl
            | some definition =>
                dsimp only
                rw [launched_calmed, saved_calmed, calmedOutcome]
      · rfl

theorem proceeded_calmed (passes : ∀ current, session.running? = some current →
      (session.service.check .get).1 = none) :
    session.calmed.proceeded = calmedOutcome session.proceeded := by
  simp only [proceeded]
  rw [refresh_calmed session passes]
  rcases (refresh : SessionM ScriptedContainers ρ WorkflowStatus).perform session with
    ⟨_ | status, after⟩
  · rfl
  · simp only [calmedOutcome, calmed_run]
    split
    · rfl
    · cases last : after.run.current? with
      | none => rfl
      | some current =>
          dsimp only
          cases stands : current.status with
          | created | started => rfl
          | completed =>
              refine next_calmed after (running?_eq_none_iff.mpr ?_)
              intro other same
              cases last.symm.trans same
              simp [stands]
          | failed | cancelled =>
              dsimp only
              split
              · rfl
              · exact retry_calmed after

end Calmed

/-! ## Rounds -/

def declined (_ : Nat) (service : ScriptedContainers) : Bool × ScriptedContainers :=
  (false, service)

/-- Nobody asks to cancel, but at one of the questions polls begin to fail, so many of them. -/
def disturbed (point : Nat) (message : String) (failures : UInt32) (count : Nat)
    (service : ScriptedContainers) : Bool × ScriptedContainers :=
  (false, if count = point then service.inject .get message (some failures) else service)

variable [RunRepository ρ] [DurableRunRepository ρ] {left right : Session ScriptedContainers ρ}
  {point : Nat} {message : String} {failures : UInt32}

omit [RunRepository ρ] [DurableRunRepository ρ] in
theorem Alike.uncounted (service : left.service = right.service)
    (runner : left.runner = right.runner) (run : left.run.untimed = right.run.untimed) :
    Alike false left right :=
  ⟨service, runner, run, fun never => absurd never Bool.false_ne_true⟩

/-- A session is where another one would be if its polls never failed. -/
abbrev Shadows (left right : Session ScriptedContainers ρ) : Prop := Synced false left right.calmed

def Alongside (left right : Except SessionFault α × Session ScriptedContainers ρ) : Prop :=
  left.1 = right.1 ∧ Shadows left.2 right.2

namespace Shadows

theorem asked_left (shadows : Shadows left right) : Shadows (left.asked declined) right :=
  ⟨⟨.uncounted shadows.service shadows.runner shadows.run, shadows.leftHolds, shadows.rightHolds⟩,
    shadows.leftStored, shadows.rightStored⟩

theorem asked_right (shadows : Shadows left right) (point : Nat) (message : String)
    (failures : UInt32) : Shadows left (right.asked (disturbed point message failures)) := by
  have service : left.service =
      (right.asked (disturbed point message failures)).calmed.service := by
    refine shadows.service.trans ?_
    simp only [asked, disturbed, calmed]
    split <;> rfl
  exact ⟨⟨.uncounted service shadows.runner shadows.run, shadows.leftHolds, shadows.rightHolds⟩,
    shadows.leftStored, shadows.rightStored⟩

theorem start (shadows : Shadows left right) :
    Alongside ((Session.start : SessionM ScriptedContainers ρ Unit).perform left)
      ((Session.start : SessionM ScriptedContainers ρ Unit).perform right) := by
  obtain ⟨answer, after⟩ := Synced.start shadows
  rw [start_calmed] at answer after
  exact ⟨answer, after⟩

theorem proceeded (shadows : Shadows left right)
    (passes : ∀ current, right.running? = some current → (right.service.check .get).1 = none) :
    Alongside left.proceeded right.proceeded := by
  obtain ⟨answer, after⟩ := Synced.proceeded shadows
  rw [proceeded_calmed right passes] at answer after
  exact ⟨answer, after⟩

theorem waits (shadows : Shadows left right) (borneOut : right.run.BorneOut)
    (active : right.run.status.isTerminal = false) {current : StateRun}
    (running : right.running? = some current)
    (fails : (right.service.check .get).1 = some message) :
    ∃ after, right.proceeded = (.ok (), after) ∧ Shadows left after ∧
      after.cancelAnswers = right.cancelAnswers ∧
      after.service = (ScriptedContainers.poll current.containerIds right.service).2 := by
  obtain ⟨failed, service⟩ := ScriptedContainers.poll_hindered current.containerIds fails
  obtain ⟨last, going⟩ := running?_eq_some_iff.mp running
  have run : (right.polled current).run = right.run := polled_of_failed_poll borneOut running failed
  have held : (right.polled current).Held := shadows.rightHolds
  obtain ⟨_, holds, stored⟩ := saved_of_holds held
  have refreshes : (refresh : SessionM ScriptedContainers ρ WorkflowStatus).perform right =
      (.ok right.run.status, (right.polled current).saved.2) := by
    rw [perform_refresh, if_neg (by simp [active]), running]
    dsimp only
    rw [held.saved]
    rfl
  have stays : (right.polled current).saved.2.run.current? = some current := by
    change (right.polled current).run.current? = some current
    rw [run, last]
  refine ⟨(right.polled current).saved.2.paused, ?_, ?_, rfl, rfl⟩
  · rw [Session.proceeded, refreshes]
    simp only [active, Bool.false_eq_true, if_false, stays, going]
  · have still : right.run.untimed = (right.polled current).saved.2.run.untimed := by
      change right.run.untimed = (right.polled current).touched.run.untimed
      rw [touched, run]
      rfl
    exact ⟨⟨.uncounted (shadows.service.trans service.symm) shadows.runner
      (shadows.run.trans still), shadows.leftHolds, holds⟩, shadows.leftStored, stored⟩

end Shadows

/-! ## What every round keeps -/

section Enduring

omit [DurableRunRepository ρ]

structure Enduring (session : Session ScriptedContainers ρ) : Prop where
  borneOut : session.run.BorneOut
  temporary : session.service.Temporary

theorem Move.temporary {before after : Session ScriptedContainers ρ}
    (move : Move (fun before after => before.Temporary → after.Temporary) before after)
    (temporary : before.service.Temporary) : after.service.Temporary := by
  cases move with
  | launchFirst | launchNext | launchAgain => exact temporary.create _ _
  | poll => exact temporary.poll _
  | stop => exact temporary.cancel _
  | interfere allowed => exact allowed temporary
  | complete | cancel | giveUp | save | pause | recount => exact temporary

theorem Moves.temporary {before after : Session ScriptedContainers ρ}
    (moves : Moves (fun before after => before.Temporary → after.Temporary) before after)
    (temporary : before.service.Temporary) : after.service.Temporary := by
  induction moves with
  | refl => exact temporary
  | tail _ move ih => exact move.temporary ih

theorem temporary_disturbed (below : failures.toNat + 1 < UInt32.size) (point : Nat)
    (message : String) (count : Nat) {service : ScriptedContainers}
    (temporary : service.Temporary) :
    (disturbed point message failures count service).2.Temporary := by
  simp only [disturbed]
  split
  · exact .inject service message below
  · exact temporary

namespace Enduring

theorem start (enduring : right.Enduring) :
    ((Session.start : SessionM ScriptedContainers ρ Unit).perform right).2.Enduring :=
  ⟨keeps_borneOut.moves (start_moves _ right) enduring.borneOut,
    Moves.temporary (start_moves _ right) enduring.temporary⟩

theorem round (enduring : right.Enduring) (below : failures.toNat + 1 < UInt32.size) (point : Nat)
    (message : String) :
    ((Session.round (disturbed point message failures) :
      SessionM ScriptedContainers ρ Unit).perform right).2.Enduring := by
  have moves := round_moves (fun before after => before.Temporary → after.Temporary) right
    (fun count _ temporary => temporary_disturbed below point message count temporary)
  exact ⟨keeps_borneOut.moves (round_moves _ right fun _ _ => trivial) enduring.borneOut,
    Moves.temporary moves enduring.temporary⟩

end Enduring

end Enduring

/-! ## Waiting for polls to pass -/

/-- A bound for how many more rounds wait for polls to pass: those before the failures begin, and
then one for each failure to come. -/
def waiting (point : Nat) (session : Session ScriptedContainers ρ) : Nat :=
  (point + 1 - session.cancelAnswers.length) * UInt32.size + session.service.failuresAhead

omit [RunRepository ρ] [DurableRunRepository ρ] in
theorem waiting_lt {after : Session ScriptedContainers ρ}
    (temporary : (right.asked (disturbed point message failures)).service.Temporary)
    (answers : after.cancelAnswers.length = right.cancelAnswers.length + 1)
    (fewer : after.service.failuresAhead <
      (right.asked (disturbed point message failures)).service.failuresAhead) :
    after.waiting point < right.waiting point := by
  have most := ScriptedContainers.failuresAhead_lt temporary
  rw [waiting, waiting, answers]
  by_cases before : right.cancelAnswers.length ≤ point
  · have sooner : point + 1 - right.cancelAnswers.length =
        point + 1 - (right.cancelAnswers.length + 1) + 1 := by omega
    rw [sooner, Nat.add_mul, Nat.one_mul]
    omega
  · have same : (right.asked (disturbed point message failures)).service = right.service :=
      if_neg (by omega)
    have past : point + 1 - (right.cancelAnswers.length + 1) =
        point + 1 - right.cancelAnswers.length := by omega
    rw [same] at fewer
    rw [past]
    omega

namespace Shadows

theorem round (shadows : Shadows left right) (enduring : right.Enduring)
    (below : failures.toNat + 1 < UInt32.size) (active : right.run.status.isTerminal = false)
    (point : Nat) (message : String) :
    (∃ after, (Session.round (disturbed point message failures) :
          SessionM ScriptedContainers ρ Unit).perform right = (.ok (), after) ∧
        Shadows left after ∧ after.waiting point < right.waiting point) ∨
      Alongside ((Session.round declined : SessionM ScriptedContainers ρ Unit).perform left)
        ((Session.round (disturbed point message failures) :
          SessionM ScriptedContainers ρ Unit).perform right) := by
  have asked := shadows.asked_right point message failures
  have temporary : (right.asked (disturbed point message failures)).service.Temporary :=
    temporary_disturbed below point message _ enduring.temporary
  have rounds : (Session.round (disturbed point message failures) :
      SessionM ScriptedContainers ρ Unit).perform right =
        (right.asked (disturbed point message failures)).proceeded :=
    perform_round_declined right rfl
  have calm : (Session.round declined : SessionM ScriptedContainers ρ Unit).perform left =
      (left.asked declined).proceeded :=
    perform_round_declined left rfl
  rw [rounds, calm]
  rcases ScriptedContainers.check_get_cases temporary with passes | ⟨failure, fails, fewer⟩
  · exact .inr (asked.asked_left.proceeded fun _ _ => passes)
  · cases running : (right.asked (disturbed point message failures)).running? with
    | none => exact .inr (asked.asked_left.proceeded (by simp [running]))
    | some current =>
        left
        obtain ⟨after, went, follows, answers, service⟩ :=
          asked.waits enduring.borneOut active running fails
        refine ⟨after, went, follows, waiting_lt temporary ?_ ?_⟩
        · rw [answers]
          exact List.length_append
        · rw [service, ScriptedContainers.failuresAhead_poll]
          exact fewer

theorem catches_up (shadows : Shadows left right) (enduring : right.Enduring)
    (below : failures.toNat + 1 < UInt32.size) (active : right.run.status.isTerminal = false)
    (point : Nat) (message : String) :
    ∃ waited last, last.run.status.isTerminal = false ∧
      (∀ count, (rounds (disturbed point message failures) (count + waited) :
          SessionM ScriptedContainers ρ (Option WorkflowStatus)).perform right =
        (rounds (disturbed point message failures) count :
          SessionM ScriptedContainers ρ (Option WorkflowStatus)).perform last) ∧
      Alongside ((Session.round declined : SessionM ScriptedContainers ρ Unit).perform left)
        ((Session.round (disturbed point message failures) :
          SessionM ScriptedContainers ρ Unit).perform last) ∧
      ((Session.round (disturbed point message failures) :
        SessionM ScriptedContainers ρ Unit).perform last).2.Enduring := by
  -- Only the session that waits moves, so the induction is on what is left of its waiting.
  induction bound : right.waiting point using Nat.strong_induction_on generalizing right with
  | _ rest ih =>
      have endures := enduring.round below point message
      rcases shadows.round enduring below active point message with
        ⟨after, went, follows, fewer⟩ | alongside
      · rw [went] at endures
        have same : right.run.status = after.run.status := shadows.status.symm.trans follows.status
        obtain ⟨waited, last, going, catches, rest⟩ :=
          ih _ (bound ▸ fewer) follows endures (same ▸ active) rfl
        refine ⟨waited + 1, last, going, ?_, rest⟩
        intro count
        rw [← Nat.add_assoc, rounds_step active went]
        exact catches count
      · exact ⟨0, right, active, fun _ => rfl, alongside, endures⟩

theorem rounds_of_terminal (shadows : Shadows left right)
    (terminal : left.run.status.isTerminal = true) {count : Nat} :
    ∃ more, Alongside
      ((Session.rounds declined count :
        SessionM ScriptedContainers ρ (Option WorkflowStatus)).perform left)
      ((Session.rounds (disturbed point message failures) more :
        SessionM ScriptedContainers ρ (Option WorkflowStatus)).perform right) := by
  have status : left.run.status = right.run.status := shadows.status
  refine ⟨0, ?_⟩
  rw [rounds_terminal terminal, rounds_terminal (status ▸ terminal), status]
  exact ⟨rfl, shadows⟩

/-- Rounds that come to an end also do so when polls fail for a while, and in the same way. -/
theorem rounds (shadows : Shadows left right) (enduring : right.Enduring)
    (below : failures.toNat + 1 < UInt32.size) (point : Nat) (message : String) {count : Nat}
    (returns : ((Session.rounds declined count :
      SessionM ScriptedContainers ρ (Option WorkflowStatus)).perform left).1 ≠ .ok none) :
    ∃ more, Alongside
      ((Session.rounds declined count :
        SessionM ScriptedContainers ρ (Option WorkflowStatus)).perform left)
      ((Session.rounds (disturbed point message failures) more :
        SessionM ScriptedContainers ρ (Option WorkflowStatus)).perform right) := by
  induction count generalizing left right with
  | zero =>
      rw [perform_rounds_zero] at returns
      split at returns
      next terminal => exact shadows.rounds_of_terminal terminal
      next => exact absurd rfl returns
  | succ count ih =>
      have status : left.run.status = right.run.status := shadows.status
      by_cases terminal : left.run.status.isTerminal = true
      · exact shadows.rounds_of_terminal terminal
      · have active := Bool.eq_false_iff.mpr terminal
        obtain ⟨waited, last, going, catches, alongside, endures⟩ :=
          shadows.catches_up enduring below (status ▸ active) point message
        rcases one : (Session.round declined : SessionM ScriptedContainers ρ Unit).perform left
          with ⟨result, next⟩
        rcases two : (Session.round (disturbed point message failures) :
          SessionM ScriptedContainers ρ Unit).perform last with ⟨other, following⟩
        rw [one, two] at alongside
        rw [two] at endures
        obtain ⟨answer, follows⟩ := alongside
        dsimp only at answer follows endures
        subst answer
        cases result with
        | error fault =>
            refine ⟨1 + waited, ?_⟩
            rw [catches, perform_rounds_succ, perform_rounds_succ, if_neg (by simp [active]),
              if_neg (by simp [going]), one, two]
            exact ⟨rfl, follows⟩
        | ok =>
            rw [rounds_step active one] at returns ⊢
            obtain ⟨more, agree⟩ := ih follows endures returns
            refine ⟨more + 1 + waited, ?_⟩
            rw [catches, rounds_step going two]
            exact agree

end Shadows

/-! ## Waiting for ever -/

namespace Shadows

theorem running (shadows : Shadows left right)
    (going : left.running?.isSome = true) : ∃ current, right.running? = some current := by
  obtain ⟨current, running⟩ := Option.isSome_iff_exists.mp going
  obtain ⟨last, started⟩ := running?_eq_some_iff.mp running
  rcases WorkflowRun.current_of_untimed shadows.run with ⟨none, _⟩ |
    ⟨here, there, first, second, same⟩
  · cases last.symm.trans none
  · cases last.symm.trans first
    obtain ⟨_, _, _, status, _⟩ := StateRun.of_untimed same
    exact ⟨there, running?_eq_some_iff.mpr ⟨second, status ▸ started⟩⟩

end Shadows

section Begin

variable {id environmentId runner : String} {workflow : Workflow}
  {surroundings : Surroundings ScriptedContainers ρ} {session : Session ScriptedContainers ρ}
  (begun : (Session.begin id environmentId workflow runner surroundings).1 = .ok session)
  (calm : surroundings.service.plan.get = none)

include begun calm

omit [DurableRunRepository ρ] in
theorem Enduring.begin : session.Enduring := by
  obtain ⟨_, rfl⟩ := begin_ok begun
  refine ⟨?_, ?_⟩
  · intro stateRun member
    cases member
  · intro failure planned
    cases calm.symm.trans planned

theorem Shadows.begin : session.Shadows session := by
  have served : session.service = surroundings.service := by
    obtain ⟨_, rfl⟩ := begin_ok begun
    rfl
  have still : session.calmed = session := by
    rw [calmed, ScriptedContainers.unhindered_of_calm (served ▸ calm)]
  rw [Shadows, still]
  exact (synced_begin begun).1

end Begin

end Session

end PrivateComputation
