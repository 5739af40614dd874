import PrivateComputation.Proofs.Repository.Lawful
import PrivateComputation.Proofs.Session.Move

/-!
What every move keeps of a run holds after any events, of the run in the session and of the run that
the repository gives for it.
-/

namespace PrivateComputation

variable {σ ρ : Type}

namespace Session

theorem within_any (operation : Operation σ) : operation.Within (fun _ _ => True) := by
  cases operation with
  | runToEnd => exact fun _ _ => trivial
  | start | next | retry | cancelState | cancelWorkflow | refresh | waitForState => trivial

/-- Something holds of the run, and of whatever the repository gives for it. -/
structure Throughout [RunRepository ρ] (holds : WorkflowRun → Prop) (session : Session σ ρ) :
    Prop where
  here : holds session.run
  stored : ∀ stored, RunRepository.read session.run.id session.repository = .ok stored →
    stored.id = session.run.id ∧ holds stored

variable [ContainerService σ] [RunRepository ρ] {world : σ → σ → Prop}
  {before after session : Session σ ρ} {holds : WorkflowRun → Prop}

theorem Move.id (move : Move world before after) : after.run.id = before.run.id := by
  cases move <;> rfl

theorem Move.repository (move : Move world before after) :
    after.repository = before.repository ∨ after = before.saved.2 := by
  cases move with
  | save => exact .inr rfl
  | launchFirst | launchNext | launchAgain | poll | stop | complete | cancel | giveUp | pause
  | interfere | recount => exact .inl rfl

def Keeps (σ ρ : Type) [ContainerService σ] [RunRepository ρ] (holds : WorkflowRun → Prop) :
    Prop :=
  ∀ {before after : Session σ ρ}, Move (fun _ _ => True) before after →
    holds before.run → holds after.run

theorem Keeps.moves (keeps : Keeps σ ρ holds) (moves : Moves (fun _ _ => True) before after)
    (here : holds before.run) : holds after.run := by
  induction moves with
  | refl => exact here
  | tail _ move ih => exact keeps move ih

namespace Throughout

omit [ContainerService σ] in
theorem begin [LawfulRunRepository ρ] {id environmentId runner : String} {workflow : Workflow}
    {surroundings : Surroundings σ ρ}
    (begun : (Session.begin id environmentId workflow runner surroundings).1 = .ok session)
    (fresh : holds session.run) : session.Throughout holds := by
  obtain ⟨created, rfl⟩ := begin_ok begun
  refine ⟨fresh, ?_⟩
  intro stored found
  have written := LawfulRunRepository.read_create _ _ created
  cases written.symm.trans found
  exact ⟨rfl, fresh⟩

theorem move [LawfulRunRepository ρ] (throughout : before.Throughout holds)
    (move : Move world before after) (kept : holds after.run) : after.Throughout holds := by
  refine ⟨kept, ?_⟩
  intro stored found
  rw [move.id] at found ⊢
  rcases move.repository with unchanged | rfl
  · rw [unchanged] at found
    exact throughout.stored stored found
  · rcases LawfulRunRepository.read_failed_update before.touched.run before.repository with
      unchanged | written
    · exact throughout.stored stored (unchanged.symm.trans found)
    · cases written.symm.trans found
      exact ⟨rfl, kept⟩

variable [LawfulRunRepository ρ] (keeps : Keeps σ ρ holds)

include keeps

theorem moves (throughout : before.Throughout holds)
    (moves : Moves (fun _ _ => True) before after) : after.Throughout holds := by
  induction moves with
  | refl => exact throughout
  | tail _ move ih => exact ih.move move (keeps move ih.here)

theorem react (throughout : session.Throughout holds) (event : Event σ) :
    (session.react event).2.Throughout holds := by
  cases event with
  | operation operation =>
      exact throughout.moves keeps (operate_moves (within_any operation) session)
  | meanwhile change => exact ⟨throughout.here, throughout.stored⟩
  | reload runner now =>
      simp only [Session.react, load]
      cases found : RunRepository.read session.run.id session.repository with
      | error fault => exact throughout
      | ok stored =>
          obtain ⟨same, holding⟩ := throughout.stored stored found
          refine ⟨holding, ?_⟩
          intro other read
          have again : RunRepository.read session.run.id session.repository = .ok other :=
            same ▸ read
          cases found.symm.trans again
          exact ⟨rfl, holding⟩

theorem follow (throughout : session.Throughout holds) (events : List (Event σ)) :
    (session.follow events).2.Throughout holds := by
  induction events generalizing session with
  | nil => exact throughout
  | cons event events ih => exact ih (throughout.react keeps event)

end Throughout

end Session

end PrivateComputation
