import Mathlib.Algebra.Group.Nat.Defs
import PrivateComputation.Containers.Scripted
import PrivateComputation.Proofs.Session.Coherent
import PrivateComputation.Proofs.Session.Throughout

/-!
The history of a run is a legal walk through its workflow, whatever containers and writes to the
repository come to, and operations only add to it.
-/

namespace PrivateComputation

variable {σ ρ : Type}

/-! ## What operations leave alone -/

structure WorkflowRun.SameIdentity (before after : WorkflowRun) : Prop where
  schemaVersion : after.schemaVersion = before.schemaVersion
  schemaId : after.schemaId = before.schemaId
  id : after.id = before.id
  environmentId : after.environmentId = before.environmentId
  workflow : after.workflow = before.workflow
  createdAt : after.createdAt = before.createdAt

theorem WorkflowRun.SameIdentity.refl (run : WorkflowRun) : run.SameIdentity run :=
  ⟨rfl, rfl, rfl, rfl, rfl, rfl⟩

theorem WorkflowRun.SameIdentity.symm {before after : WorkflowRun}
    (same : before.SameIdentity after) : after.SameIdentity before :=
  ⟨same.schemaVersion.symm, same.schemaId.symm, same.id.symm, same.environmentId.symm,
    same.workflow.symm, same.createdAt.symm⟩

theorem WorkflowRun.SameIdentity.trans {first second third : WorkflowRun}
    (left : first.SameIdentity second) (right : second.SameIdentity third) :
    first.SameIdentity third :=
  ⟨right.schemaVersion.trans left.schemaVersion, right.schemaId.trans left.schemaId,
    right.id.trans left.id, right.environmentId.trans left.environmentId,
    right.workflow.trans left.workflow, right.createdAt.trans left.createdAt⟩

structure WorkflowRun.CoherentFrom (first run : WorkflowRun) : Prop where
  identity : first.SameIdentity run
  coherent : CoherentHistory run.workflow run.status run.history

theorem getElem?_concat_cases {α : Type} {front : List α} {last found : α} {index : Nat}
    (there : (front ++ [last])[index]? = some found) :
    front[index]? = some found ∨ index = front.length ∧ found = last := by
  rw [List.getElem?_append] at there
  split at there
  next => exact .inl there
  next beyond =>
    have inside := (List.getElem?_eq_some_iff.mp there).1
    rw [List.length_singleton] at inside
    exact .inr ⟨by omega, List.mem_singleton.mp (List.mem_of_getElem? there)⟩

/-- A later version of a run: every state run keeps its place, all but the last are as they were,
and the last one may only have got other containers and another status. -/
structure WorkflowRun.Continues (before after : WorkflowRun) : Prop where
  identity : before.SameIdentity after
  kept : ∀ (index : Nat) (earlier : StateRun), before.history[index]? = some earlier →
    ∃ later, after.history[index]? = some later ∧ earlier.SameRun later ∧
      (index + 1 < before.history.length → later = earlier)

namespace WorkflowRun.Continues

theorem of_history_eq {before after : WorkflowRun} (identity : before.SameIdentity after)
    (same : after.history = before.history) : before.Continues after := by
  refine ⟨identity, ?_⟩
  intro index earlier found
  exact ⟨earlier, same ▸ found, ⟨rfl, rfl, rfl, rfl⟩, fun _ => rfl⟩

theorem append {before after : WorkflowRun} (identity : before.SameIdentity after)
    {stateRun : StateRun} (appended : after.history = before.history ++ [stateRun]) :
    before.Continues after := by
  refine ⟨identity, ?_⟩
  intro index earlier found
  refine ⟨earlier, ?_, ⟨rfl, rfl, rfl, rfl⟩, fun _ => rfl⟩
  rw [appended, List.getElem?_append_left (List.getElem?_eq_some_iff.mp found).1]
  exact found

theorem withCurrent {run : WorkflowRun} {current changed : StateRun}
    (last : run.current? = some current) (same : current.SameRun changed) :
    run.Continues (run.withCurrent changed) := by
  obtain ⟨front, shape⟩ := List.getLast?_eq_some_iff.mp last
  have replaced : (run.withCurrent changed).history = front ++ [changed] := by
    simp [WorkflowRun.withCurrent, shape]
  refine ⟨⟨rfl, rfl, rfl, rfl, rfl, rfl⟩, ?_⟩
  intro index earlier found
  rw [shape] at found
  rw [replaced]
  rcases getElem?_concat_cases found with old | ⟨rfl, rfl⟩
  · refine ⟨earlier, ?_, ⟨rfl, rfl, rfl, rfl⟩, fun _ => rfl⟩
    rw [List.getElem?_append_left (List.getElem?_eq_some_iff.mp old).1, old]
  · refine ⟨changed, List.getElem?_concat_length, same, ?_⟩
    intro inner
    rw [shape, List.length_append, List.length_singleton] at inner
    omega

theorem length_le {before after : WorkflowRun} (continues : before.Continues after) :
    before.history.length ≤ after.history.length := by
  by_contra longer
  have bound : after.history.length < before.history.length := by omega
  obtain ⟨_, found, _⟩ := continues.kept after.history.length _ (List.getElem?_eq_getElem bound)
  simp at found

theorem trans {first second third : WorkflowRun} (left : first.Continues second)
    (right : second.Continues third) : first.Continues third := by
  refine ⟨left.identity.trans right.identity, ?_⟩
  intro index earlier found
  obtain ⟨middle, foundMiddle, sameMiddle, keptMiddle⟩ := left.kept index earlier found
  obtain ⟨later, foundLater, sameLater, keptLater⟩ := right.kept index middle foundMiddle
  refine ⟨later, foundLater, sameMiddle.trans sameLater, ?_⟩
  intro inner
  rw [keptLater (Nat.lt_of_lt_of_le inner left.length_le), keptMiddle inner]

end WorkflowRun.Continues

namespace Session

variable [ContainerService σ] [RunRepository ρ] {world : σ → σ → Prop}

theorem Move.continues {before after : Session σ ρ} (move : Move world before after) :
    before.run.Continues after.run := by
  cases move with
  | launchFirst | launchNext | launchAgain => exact .append ⟨rfl, rfl, rfl, rfl, rfl, rfl⟩ rfl
  | poll _ last _ => exact .withCurrent last (StateRun.sameRun_refreshed _ _)
  | stop last _ => exact .withCurrent last ⟨rfl, rfl, rfl, rfl⟩
  | complete | cancel | giveUp | save | pause | interfere | recount =>
      exact .of_history_eq ⟨rfl, rfl, rfl, rfl, rfl, rfl⟩ rfl

theorem Moves.continues {before after : Session σ ρ} (moves : Moves world before after) :
    before.run.Continues after.run := by
  induction moves with
  | refl => exact .of_history_eq (.refl _) rfl
  | tail _ move ih => exact ih.trans move.continues

/-! ## What the repository keeps -/

structure Sound (session : Session σ ρ) : Prop where
  coherent : session.Coherent
  stored : ∀ stored, RunRepository.read session.run.id session.repository = .ok stored →
    session.run.SameIdentity stored ∧
      CoherentHistory stored.workflow stored.status stored.history

theorem keeps_coherentFrom (first : WorkflowRun) : Keeps σ ρ first.CoherentFrom := by
  intro before after move holding
  exact ⟨holding.identity.trans move.continues.identity,
    move.coherent (show before.Coherent from holding.coherent)⟩

omit [ContainerService σ] in
theorem Sound.throughout {session : Session σ ρ} (sound : session.Sound) :
    session.Throughout session.run.CoherentFrom := by
  refine ⟨⟨.refl _, sound.coherent⟩, ?_⟩
  intro stored found
  obtain ⟨same, coherent⟩ := sound.stored stored found
  exact ⟨same.id, same, coherent⟩

omit [ContainerService σ] in
theorem Throughout.sound {first : WorkflowRun} {session : Session σ ρ}
    (throughout : session.Throughout first.CoherentFrom) : session.Sound := by
  refine ⟨throughout.here.coherent, ?_⟩
  intro stored found
  obtain ⟨_, holding⟩ := throughout.stored stored found
  exact ⟨throughout.here.identity.symm.trans holding.identity, holding.coherent⟩

theorem Moves.sound [LawfulRunRepository ρ] {before after : Session σ ρ}
    (moves : Moves (fun _ _ => True) before after) (sound : before.Sound) : after.Sound :=
  (sound.throughout.moves (keeps_coherentFrom _) moves).sound

omit [ContainerService σ] in
theorem sound_begin [LawfulRunRepository ρ] {id environmentId runner : String}
    {workflow : Workflow} {surroundings : Surroundings σ ρ} {session : Session σ ρ}
    (begun : (begin id environmentId workflow runner surroundings).1 = .ok session) :
    session.Sound ∧
      ∃ now, session.run = WorkflowRun.fresh id environmentId workflow now := by
  obtain ⟨_, opened⟩ := begin_ok begun
  have run : session.run = .fresh id environmentId workflow surroundings.now.next := by
    rw [opened]
    rfl
  have coherent : session.run.CoherentFrom session.run :=
    ⟨.refl _, run ▸ CoherentHistory.fresh workflow⟩
  exact ⟨(Throughout.begin begun coherent).sound, _, run⟩

theorem sound_follow [LawfulRunRepository ρ] {session : Session σ ρ} (sound : session.Sound)
    (events : List (Event σ)) :
    (session.follow events).2.Sound ∧
      session.run.SameIdentity (session.follow events).2.run := by
  have throughout := sound.throughout.follow (keeps_coherentFrom _) events
  exact ⟨throughout.sound, throughout.here.identity⟩

end Session

/-! ## Legal histories -/

/-- A state run follows another: it runs the same state again after a failure or a cancellation, or
runs the next state after a completion. -/
def StateRun.Follows (earlier later : StateRun) : Prop :=
  (later.stateName = earlier.stateName ∧
      later.retryNumber.toNat = earlier.retryNumber.toNat + 1 ∧
      (earlier.status = .failed ∨ earlier.status = .cancelled)) ∨
    (earlier.definition.successor = some later.stateName ∧ later.retryNumber.toNat = 0 ∧
      earlier.status = .completed)

structure LegalHistory (workflow : Workflow) (history : List StateRun) : Prop where
  begins : ∀ first, history.head? = some first →
    first.stateName = workflow.startsAt ∧ first.retryNumber.toNat = 0
  follows : history.IsChain StateRun.Follows
  defined : ∀ stateRun ∈ history, workflow.state? stateRun.stateName = some stateRun.definition
  /-- Behind a run of an end state there can only be a retry. -/
  ends : history.IsChain (fun earlier later =>
    earlier.definition.isEnd = true → later.stateName = earlier.stateName)
  ended : ∀ stateRun ∈ history.dropLast, stateRun.status.isTerminal = true
  oneStarted : (history.filter (fun stateRun => stateRun.status = .started)).length ≤ 1

theorem CoherentHistory.legal {workflow : Workflow} {status : WorkflowStatus}
    {history : List StateRun} (coherent : CoherentHistory workflow status history)
    (few : history.length < 2 ^ 32) : LegalHistory workflow history where
  begins := by
    intro first found
    obtain ⟨name, zero⟩ := coherent.begins first found
    exact ⟨name, by rw [zero]; rfl⟩
  follows := by
    refine List.isChain_iff_getElem.mpr ?_
    intro index inside
    rcases coherent.linked.getElem index inside with ⟨name, retried, stuck⟩ | ⟨name, zero, done⟩
    · refine .inl ⟨name, ?_, stuck⟩
      have bound := coherent.numbered index history[index] (List.getElem?_eq_getElem _)
      have one : (1 : UInt32).toNat = 1 := rfl
      rw [retried, UInt32.toNat_add, one]
      omega
    · exact .inr ⟨name, by rw [zero]; rfl, done⟩
  defined := coherent.defined
  ends := by
    refine coherent.linked.imp ?_
    rintro earlier later (⟨name, _, _⟩ | ⟨follows, _, _⟩) isEnd
    · exact name
    · simp [StateDefinition.successor, isEnd] at follows
  ended := coherent.ended
  oneStarted := by
    rcases List.eq_nil_or_concat history with empty | ⟨front, last, shape⟩
    · simp [empty]
    · rw [List.concat_eq_append] at shape
      subst shape
      have none : front.filter (fun stateRun => stateRun.status = .started) = [] := by
        refine List.filter_eq_nil_iff.mpr ?_
        intro stateRun member
        have ended := coherent.ended stateRun (by simpa using member)
        intro going
        simp only [decide_eq_true_eq] at going
        rw [going] at ended
        cases ended
      rw [List.filter_append, none, List.nil_append]
      exact List.length_filter_le _ _

/-- Whatever happens to a run, its history is a legal walk through its workflow, and every operation
only adds to it. -/
theorem legal_history [ContainerService σ] [RunRepository ρ] [LawfulRunRepository ρ]
    (id environmentId runner : String) (workflow : Workflow) (surroundings : Surroundings σ ρ)
    (session : Session σ ρ)
    (begun : (Session.begin id environmentId workflow runner surroundings).1 = .ok session)
    (events : List (Event σ)) :
    let reached := (session.follow events).2
    reached.run.id = id ∧ reached.run.environmentId = environmentId ∧
      reached.run.workflow = workflow ∧
      (reached.run.history.length < 2 ^ 32 → LegalHistory workflow reached.run.history) ∧
      ∀ operation, reached.run.Continues (reached.operate operation).2.run := by
  intro reached
  obtain ⟨sound, now, fresh⟩ := Session.sound_begin begun
  obtain ⟨final, identity⟩ := Session.sound_follow sound events
  rw [fresh] at identity
  have same : reached.run.workflow = workflow := identity.workflow
  refine ⟨identity.id, identity.environmentId, same, ?_, ?_⟩
  · intro few
    exact same ▸ final.coherent.legal few
  · intro operation
    exact (Session.operate_moves (Session.within_any operation) reached).continues

/-! ## A small run -/

/-- A workflow of two states; the first one may be retried once. -/
def Workflow.sample : Workflow :=
  let first : StateDefinition :=
    ⟨"task", "small", "prepare", ["left", "right"], none, some "compute", false, none, 1⟩
  let second : StateDefinition :=
    ⟨"task", "large", "compute", ["all"], none, none, true, none, 0⟩
  ⟨"prepare", (SortedMap.empty.insert "prepare" first).insert "compute" second, none⟩

def Session.sample (service : σ) (repository : ρ) : Session σ ρ :=
  .takeUp (.fresh "run" "environment" .sample Instant.epoch.next) "runner"
    ⟨service, repository, Instant.epoch.next⟩

/-- The second state is dispatched twice when the write of its first run fails and the run is then
taken up again. -/
theorem legal_history_of_lost_write :
    let service := ScriptedContainers.fresh
    let fates : List WriteFate := [.passes, .passes, .passes, .fails .missing false]
    let begun := Session.begin "run" "environment" .sample "runner"
      ⟨service, (⟨.empty, fates⟩ : Unreliable MemoryRepository), .epoch⟩
    let session := Session.sample service begun.2.repository
    let events : List (Event ScriptedContainers) :=
      [.operation .start, .operation .next, .reload "runner" .epoch, .operation .next]
    begun.1 = .ok session ∧
      (session.follow events).1 =
        [.ok .done, .error (.repository (.file .missing)), .ok .done] ∧
      (session.follow events).2.service.launches = 4 ∧
      (session.follow events).2.run.history.map StateRun.stateName = ["prepare", "compute"] ∧
      LegalHistory Workflow.sample (session.follow events).2.run.history := by
  intro service fates begun session events
  have opened : begun.1 = .ok session := rfl
  have walked := legal_history "run" "environment" "runner" .sample _ session opened events
  have few : (session.follow events).2.run.history.length < 2 ^ 32 := by decide +kernel
  refine ⟨opened, ?_, ?_, ?_, walked.2.2.2.1 few⟩ <;> decide +kernel

end PrivateComputation
