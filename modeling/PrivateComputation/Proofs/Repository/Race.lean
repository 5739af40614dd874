import Mathlib.Data.Fintype.Defs
import PrivateComputation.Proofs.Repository.Creation

/-!
What several processes that create a run under one id come to. As long as only one of them at a time
is between its check and its last step, one at most goes well and its run is kept. Nothing sees to
that, and without it all of them can go well and every run but one is lost.
-/

namespace PrivateComputation

open DirectoryRepository

namespace Race

variable {Process : Type} [DecidableEq Process] {runs : Process → WorkflowRun} {id : String}
  {start : Directory} {race : Race Process} {process : Process}

def advance (race : Race Process) (process : Process) (outcome : Creation × Directory) :
    Race Process :=
  ⟨outcome.2, fun other => if other = process then outcome.1 else race.stage other⟩

theorem advance_stage_self (race : Race Process) (process : Process)
    (outcome : Creation × Directory) : (race.advance process outcome).stage process = outcome.1 :=
  if_pos rfl

theorem forall_advance (property : Process → Creation → Prop) {outcome : Creation × Directory}
    (own : property process outcome.1)
    (others : ∀ other, other ≠ process → property other (race.stage other)) (other : Process) :
    property other ((race.advance process outcome).stage other) := by
  simp only [advance]
  by_cases same : other = process
  · rw [if_pos same, same]
    exact own
  · rw [if_neg same]
    exact others other same

theorem advance_stays {creation : Creation} (stage : race.stage process = creation) :
    race.advance process (creation, race.directory) = race := by
  obtain ⟨directory, stages⟩ := race
  refine congrArg (Race.mk directory) (funext ?_)
  intro other
  by_cases own : other = process
  · rw [if_pos own, own]
    exact stage.symm
  · exact if_neg own

theorem turn_eq (runs : Process → WorkflowRun) (race : Race Process) (process : Process) :
    race.turn runs process =
      race.advance process ((race.stage process).step (runs process) race.directory) := rfl

theorem advance_advance (race : Race Process) (process : Process)
    (first second : Creation × Directory) :
    (race.advance process first).advance process second = race.advance process second := by
  refine congrArg (Race.mk second.2) (funext ?_)
  intro other
  by_cases own : other = process
  · simp only [own, if_true]
  · simp only [advance, own, if_false]

theorem play_append (runs : Process → WorkflowRun) (first second : List Process)
    (race : Race Process) :
    race.play runs (first ++ second) = (race.play runs first).play runs second := by
  simp only [play, List.foldl_append]

theorem play_replicate (runs : Process → WorkflowRun) (race : Race Process) (process : Process)
    (turns : Nat) : race.play runs (List.replicate turns process) =
      race.advance process
        (Creation.alone (runs process) turns (race.stage process, race.directory)) := by
  induction turns generalizing race with
  | zero => exact (advance_stays rfl).symm
  | succ turns ih =>
      rw [List.replicate_succ]
      refine (ih (race.turn runs process)).trans ?_
      rw [turn_eq, advance_advance, advance_stage_self]
      rfl

/-! ## Whole runs only -/

/-- What holds all along, however the processes come between one another. -/
structure Mixed (runs : Process → WorkflowRun) (id : String) (start : Directory)
    (race : Race Process) : Prop where
  reached : ∀ process, (race.stage process).Reached (runs process)
  /-- A draft that is going to be renamed is of one of the runs, if not of the own one. -/
  draft : ∀ process, race.stage process = Creation.atRename (runs process) →
    ∀ content, race.directory.entry? (draftName id) = some (.file content) →
      ∃ other, content = (runs other).toText.toUTF8
  /-- The file is as it was, or there is one of the runs. -/
  file : race.directory = start ∨ ∃ entries left, start.create = .ok (.present entries) ∧
    race.directory = .present left ∧
      (left.get? (id ++ ".json") = entries.get? (id ++ ".json") ∨
        ∃ other, read id ⟨.present left⟩ = .ok (runs other))
  kept : ∀ process, race.stage process = .done (.ok ()) →
    ∃ other, read id ⟨race.directory⟩ = .ok (runs other)

namespace Mixed

omit [DecidableEq Process] in
theorem begin (runs : Process → WorkflowRun) (id : String) (directory : Directory) :
    (begin directory : Race Process).Mixed runs id directory where
  reached _ := .unchecked
  draft _ := nofun
  file := .inl rfl
  kept _ := nofun

theorem reached_advance (mixed : race.Mixed runs id start) {outcome : Creation × Directory}
    (reached : outcome.1.Reached (runs process)) (other : Process) :
    ((race.advance process outcome).stage other).Reached (runs other) :=
  forall_advance (fun other creation => creation.Reached (runs other)) reached
    (fun other _ => mixed.reached other) other

theorem restage (mixed : race.Mixed runs id start) {creation : Creation}
    (reached : creation.Reached (runs process))
    (notRename : creation ≠ Creation.atRename (runs process))
    (notDone : creation ≠ .done (.ok ())) :
    (race.advance process (creation, race.directory)).Mixed runs id start where
  reached := mixed.reached_advance reached
  draft := forall_advance (fun other creation => creation = Creation.atRename (runs other) → _)
    (fun atRename => absurd atRename notRename) (fun other _ => mixed.draft other)
  file := mixed.file
  kept := forall_advance (fun _ creation => creation = .done (.ok ()) → _)
    (fun done => absurd done notDone) (fun other _ => mixed.kept other)

theorem settle (mixed : race.Mixed runs id start) {creation : Creation}
    (reached : creation.Reached (runs process)) {left : SortedMap DirectoryEntry}
    (draft : left.get? (draftName id) = none)
    (made : ∃ entries, start.create = .ok (.present entries))
    (found : ∃ other, read id ⟨.present left⟩ = .ok (runs other)) :
    (race.advance process (creation, .present left)).Mixed runs id start where
  reached := mixed.reached_advance reached
  draft _ _ content there := by
    have none : Directory.entry? (.present left) (draftName id) = none := draft
    exact absurd (none.symm.trans there) nofun
  file := by
    obtain ⟨entries, created⟩ := made
    exact .inr ⟨entries, left, created, rfl, .inr found⟩
  kept _ _ := found

omit [DecidableEq Process] in
theorem made (mixed : race.Mixed runs id start) {directory : Directory}
    {entries : SortedMap DirectoryEntry} (there : race.directory = directory)
    (created : directory.create = .ok (.present entries)) :
    ∃ first, start.create = .ok (.present first) ∧
      (entries.get? (id ++ ".json") = first.get? (id ++ ".json") ∨
        ∃ other, read id ⟨.present entries⟩ = .ok (runs other)) := by
  rcases mixed.file with same | ⟨first, left, begun, now, found⟩
  · rw [← there, same] at created
    exact ⟨entries, created, .inl rfl⟩
  · rw [← there, now] at created
    cases created
    exact ⟨first, begun, found⟩

theorem moved (mixed : race.Mixed runs id start) (same : ∀ process, (runs process).id = id)
    (valid : isRunId id = true) {creation : Creation} {directory : Directory}
    {outcome : Creation × Directory} (stage : race.stage process = creation)
    (there : race.directory = directory)
    (moves : Creation.Moves (runs process) creation directory outcome) :
    (race.advance process outcome).Mixed runs id start := by
  have own := same process
  cases moves with
  | stays answer =>
      subst there
      rw [advance_stays stage]
      exact mixed
  | refused taken =>
      subst there
      exact mixed.restage (.done _) nofun nofun
  | passed absent =>
      subst there
      exact mixed.restage .directory nofun nofun
  | failed step rest _ fault =>
      subst there
      exact mixed.restage (.done _) nofun nofun
  | made created =>
      obtain ⟨first, begun, file⟩ := mixed.made there created
      subst there
      refine ⟨mixed.reached_advance .draft, ?_, .inr ⟨first, _, begun, rfl, file⟩, ?_⟩
      · refine forall_advance (fun other creation => creation = Creation.atRename (runs other) → _)
          nofun ?_
        intro other _ atRename content drafted
        refine mixed.draft other atRename content ?_
        rw [← Directory.entry?_create created]
        exact drafted
      · refine forall_advance (fun _ creation => creation = .done (.ok ()) → _) nofun ?_
        intro other _ done
        obtain ⟨kept, found⟩ := mixed.kept other done
        refine ⟨kept, ?_⟩
        rw [advance, Directory.create_of_read created valid found]
        exact found
  | drafted entries =>
      obtain ⟨first, begun, file⟩ := mixed.made there rfl
      have kept := mixed.kept
      rw [there] at kept
      have unread : (entries.insert (draftName id) (.file (runs process).toText.toUTF8)).get?
          (id ++ ".json") = entries.get? (id ++ ".json") :=
        SortedMap.get?_insert_of_ne entries (draftName_ne id) _
      rw [own]
      refine ⟨mixed.reached_advance .rename, ?_, .inr ⟨first, _, begun, rfl, ?_⟩, ?_⟩
      · intro _ _ content drafted
        have text := (SortedMap.get?_insert_self entries (draftName id) _).symm.trans drafted
        cases text
        exact ⟨process, rfl⟩
      · rw [unread, read_congr unread]
        exact file
      · refine forall_advance (fun _ creation => creation = .done (.ok ()) → _) nofun ?_
        intro other _ done
        obtain ⟨other, found⟩ := kept other done
        exact ⟨other, (read_congr unread).trans found⟩
  | @renamed entries content short drafted =>
      rw [own] at short drafted ⊢
      obtain ⟨first, begun, _⟩ := mixed.made there rfl
      obtain ⟨other, rfl⟩ := mixed.draft process stage content (by rw [there]; exact drafted)
      refine mixed.settle (.done _) ?_ ⟨first, begun⟩ ⟨other, ?_⟩
      · rw [SortedMap.get?_insert_of_ne _ (draftName_ne id).symm, SortedMap.get?_erase, if_pos rfl]
      · exact read_file valid short (SortedMap.get?_insert_self _ _ _)

theorem turn (mixed : race.Mixed runs id start) (same : ∀ process, (runs process).id = id)
    (valid : isRunId id = true) (process : Process) :
    (race.turn runs process).Mixed runs id start := by
  rw [turn_eq]
  refine mixed.moved same valid rfl rfl ?_
  exact Creation.moves_step (mixed.reached process) (by rw [same]; exact valid) race.directory

theorem play (mixed : race.Mixed runs id start) (same : ∀ process, (runs process).id = id)
    (valid : isRunId id = true) (turns : List Process) :
    (race.play runs turns).Mixed runs id start := by
  induction turns generalizing race with
  | nil => exact mixed
  | cons process turns ih => exact ih (mixed.turn same valid process)

end Mixed

/-! ## One at a time -/

/-- A creation has gone well: its run is kept, and no other creation has gone well or is on its
way. -/
structure Won (runs : Process → WorkflowRun) (id : String) (race : Race Process)
    (process : Process) : Prop where
  there : race.directory.contains (id ++ ".json") = true
  kept : read id ⟨race.directory⟩ = .ok (runs process)
  others : ∀ other, other ≠ process →
    (race.stage other).isWriting = false ∧ race.stage other ≠ .done (.ok ())

/-- What holds as long as one creation at most is between its check and its last step. -/
structure Exclusive (runs : Process → WorkflowRun) (id : String) (race : Race Process) : Prop where
  reached : ∀ process, (race.stage process).Reached (runs process)
  draft : ∀ process, race.stage process = Creation.atRename (runs process) →
    race.directory.entry? (draftName id) = some (.file (runs process).toText.toUTF8)
  won : ∀ process, race.stage process = .done (.ok ()) → race.Won runs id process

namespace Exclusive

omit [DecidableEq Process] in
theorem begin (runs : Process → WorkflowRun) (id : String) (directory : Directory) :
    (begin directory : Race Process).Exclusive runs id where
  reached _ := .unchecked
  draft _ := nofun
  won _ := nofun

omit [DecidableEq Process] in
theorem unfinished (exclusive : race.Exclusive runs id)
    (writing : (race.stage process).isWriting = true) (other : Process) :
    race.stage other ≠ .done (.ok ()) := by
  intro done
  by_cases own : process = other
  · rw [own, done] at writing
    cases writing
  · rw [((exclusive.won other done).others process own).1] at writing
    cases writing

theorem advance_unfinished {outcome : Creation × Directory}
    (unfinished : ∀ other, race.stage other ≠ .done (.ok ()))
    (reached : ∀ other, ((race.advance process outcome).stage other).Reached (runs other))
    (notDone : outcome.1 ≠ .done (.ok ()))
    (draft : outcome.1 = Creation.atRename (runs process) →
      Directory.entry? outcome.2 (draftName id) = some (.file (runs process).toText.toUTF8))
    (drafts : ∀ other, other ≠ process → race.stage other = Creation.atRename (runs other) →
      Directory.entry? outcome.2 (draftName id) = some (.file (runs other).toText.toUTF8)) :
    (race.advance process outcome).Exclusive runs id where
  reached := reached
  draft := forall_advance (fun other creation => creation = Creation.atRename (runs other) →
      Directory.entry? outcome.2 (draftName id) = some (.file (runs other).toText.toUTF8))
    draft drafts
  won := forall_advance (fun other creation => creation = .done (.ok ()) →
      (race.advance process outcome).Won runs id other)
    (fun done => absurd done notDone) (fun other _ done => absurd done (unfinished other))

theorem refused (exclusive : race.Exclusive runs id) (fault : RepositoryFault) :
    (race.advance process (.done (.error fault), race.directory)).Exclusive runs id where
  reached := forall_advance (fun other creation => creation.Reached (runs other)) (.done _)
    (fun other _ => exclusive.reached other)
  draft := forall_advance (fun other creation => creation = Creation.atRename (runs other) →
      race.directory.entry? (draftName id) = some (.file (runs other).toText.toUTF8))
    nofun (fun other _ => exclusive.draft other)
  won := by
    refine forall_advance (fun other creation => creation = .done (.ok ()) →
      (race.advance process (.done (.error fault), race.directory)).Won runs id other) nofun ?_
    intro winner _ done
    obtain ⟨there, kept, others⟩ := exclusive.won winner done
    refine ⟨there, kept, ?_⟩
    exact forall_advance (fun other creation => other ≠ winner →
      creation.isWriting = false ∧ creation ≠ .done (.ok ())) (fun _ => ⟨rfl, nofun⟩)
      (fun other _ => others other)

theorem moved (exclusive : race.Exclusive runs id) (apart : race.Apart)
    (same : ∀ process, (runs process).id = id) (valid : isRunId id = true) {creation : Creation}
    {directory : Directory} {outcome : Creation × Directory}
    (stage : race.stage process = creation) (there : race.directory = directory)
    (moves : Creation.Moves (runs process) creation directory outcome) :
    (race.advance process outcome).Exclusive runs id := by
  have own := same process
  have reached : ∀ other, ((race.advance process outcome).stage other).Reached (runs other) :=
    forall_advance (fun other creation => creation.Reached (runs other)) moves.reached
      (fun other _ => exclusive.reached other)
  have unfinished : creation.isWriting = true → ∀ other, race.stage other ≠ .done (.ok ()) :=
    fun writing => exclusive.unfinished (stage ▸ writing)
  have alone : creation.isWriting = true → ∀ other, other ≠ process →
      (race.stage other).isWriting = false := by
    intro writing other different
    refine Bool.eq_false_iff.mpr ?_
    intro also
    exact different (apart other process also (stage ▸ writing))
  cases moves with
  | stays answer =>
      subst there
      rw [advance_stays stage]
      exact exclusive
  | refused taken =>
      subst there
      exact exclusive.refused _
  | passed absent =>
      subst there
      refine advance_unfinished ?_ reached nofun nofun (fun other _ => exclusive.draft other)
      intro other done
      rw [own, (exclusive.won other done).there] at absent
      cases absent
  | failed step rest _ fault =>
      subst there
      exact advance_unfinished (unfinished rfl) reached nofun nofun
        (fun other _ => exclusive.draft other)
  | made created =>
      subst there
      refine advance_unfinished (unfinished rfl) reached nofun nofun ?_
      intro other _ atRename
      rw [Directory.entry?_create created]
      exact exclusive.draft other atRename
  | drafted entries =>
      refine advance_unfinished (unfinished rfl) reached nofun ?_ ?_
      · intro _
        rw [own]
        exact SortedMap.get?_insert_self _ _ _
      · intro other different atRename
        have writing := alone rfl other different
        rw [atRename] at writing
        cases writing
  | @renamed entries content short drafted =>
      -- Nobody else could have put a draft there since, so the one that is renamed is the own one.
      have text := exclusive.draft process stage
      rw [own] at short drafted reached ⊢
      rw [there] at text
      cases Option.some.inj (drafted.symm.trans text)
      refine ⟨reached, ?_, ?_⟩
      · refine forall_advance (fun other creation => creation = Creation.atRename (runs other) → _)
          nofun ?_
        intro other different atRename
        have writing := alone rfl other different
        rw [atRename] at writing
        cases writing
      · refine forall_advance (fun other creation => creation = .done (.ok ()) → _) ?_ ?_
        · intro _
          refine ⟨?_, read_file valid short (SortedMap.get?_insert_self _ _ _), ?_⟩
          · exact congrArg Option.isSome (SortedMap.get?_insert_self _ _ _)
          · refine forall_advance (fun other creation => other ≠ process →
              creation.isWriting = false ∧ creation ≠ .done (.ok ()))
              (fun different => absurd rfl different) ?_
            intro other different _
            exact ⟨alone rfl other different, unfinished rfl other⟩
        · intro other _ done
          exact absurd done (unfinished rfl other)

theorem turn (exclusive : race.Exclusive runs id) (apart : race.Apart)
    (same : ∀ process, (runs process).id = id) (valid : isRunId id = true) (process : Process) :
    (race.turn runs process).Exclusive runs id := by
  rw [turn_eq]
  refine exclusive.moved apart same valid rfl rfl ?_
  exact Creation.moves_step (exclusive.reached process) (by rw [same]; exact valid) race.directory

theorem play (exclusive : race.Exclusive runs id) (same : ∀ process, (runs process).id = id)
    (valid : isRunId id = true) {turns : List Process} (apart : race.ApartThroughout runs turns) :
    (race.play runs turns).Exclusive runs id := by
  induction turns generalizing race with
  | nil => exact exclusive
  | cons process turns ih => exact ih (exclusive.turn apart.1 same valid process) apart.2

end Exclusive

/-- However the turns of several creations of one id are taken, a reader finds what was there before
or a whole run, and one of the runs if any creation went well. If no two creations are ever between
their check and their last step together, one at most goes well and it is its run that is found. -/
theorem racing_creations (same : ∀ process, (runs process).id = id) (valid : isRunId id = true)
    (directory : Directory) (turns : List Process) :
    let race := (Race.begin directory).play runs turns
    (ReadsAlike id ⟨directory⟩ ⟨race.directory⟩ ∨
        ∃ process, read id ⟨race.directory⟩ = .ok (runs process)) ∧
      (∀ process, race.stage process = .done (.ok ()) →
        ∃ other, read id ⟨race.directory⟩ = .ok (runs other)) ∧
      ((Race.begin directory).ApartThroughout runs turns →
        ∀ process, race.stage process = .done (.ok ()) →
          read id ⟨race.directory⟩ = .ok (runs process) ∧
            ∀ other, other ≠ process → race.stage other ≠ .done (.ok ())) := by
  intro race
  have mixed : race.Mixed runs id directory :=
    (Mixed.begin runs id directory).play same valid turns
  refine ⟨?_, mixed.kept, ?_⟩
  · rcases mixed.file with unchanged | ⟨entries, left, made, now, found⟩
    · rw [unchanged]
      exact .inl (.inl rfl)
    · rw [now]
      exact found.imp (readsAlike_of_create made) (fun found => found)
  · intro apart process done
    have exclusive : race.Exclusive runs id :=
      (Exclusive.begin runs id directory).play same valid apart
    obtain ⟨_, kept, others⟩ := exclusive.won process done
    exact ⟨kept, fun other different => (others other different).2⟩

structure Clear (id : String) (entries : SortedMap DirectoryEntry) : Prop where
  short : Directory.isLongName (draftName id) = false
  draft : entries.get? (draftName id) ≠ some .folder
  file : entries.get? (id ++ ".json") ≠ some .folder

theorem Clear.save {run : WorkflowRun} {entries : SortedMap DirectoryEntry}
    (clear : Clear run.id entries) : DirectoryRepository.save run (run.id ++ ".json")
      ⟨.present entries⟩ = (.ok (), ⟨.present (settled run (run.id ++ ".json") entries)⟩) := by
  rw [save_present run (draftName_ne run.id), if_neg (Bool.eq_false_iff.mp clear.short),
    if_neg clear.draft, if_neg clear.file]

theorem Clear.settled {run : WorkflowRun} {entries : SortedMap DirectoryEntry}
    (clear : Clear run.id entries) :
    Clear run.id (DirectoryRepository.settled run (run.id ++ ".json") entries) where
  short := clear.short
  draft := by
    rw [get?_settled_of_ne run entries (draftName_ne run.id).symm, if_pos rfl]
    simp
  file := by
    rw [get?_settled]
    simp

instance [Fintype Process] (race : Race Process) : Decidable race.Apart :=
  inferInstanceAs (Decidable (∀ one two, _ → _ → one = two))

instance decidableApartThroughout [Fintype Process] (runs : Process → WorkflowRun) :
    ∀ (turns : List Process) (race : Race Process), Decidable (race.ApartThroughout runs turns)
  | [], race => inferInstanceAs (Decidable race.Apart)
  | process :: turns, race =>
      have := decidableApartThroughout runs turns (race.turn runs process)
      inferInstanceAs (Decidable (_ ∧ _))

def rivals (first : Bool) : WorkflowRun :=
  .fresh "run" (if first then "first" else "second") ⟨"only", ∅, none⟩ .epoch

theorem racing_creations_of_one_by_one :
    let turns := List.replicate 4 true ++ List.replicate 4 false
    let race := (begin (.present ∅)).play rivals turns
    (∀ first, (rivals first).id = "run") ∧ isRunId "run" = true ∧
      (begin (.present ∅)).ApartThroughout rivals turns ∧
      race.stage true = .done (.ok ()) ∧
      race.stage false = .done (.error (.alreadyExists "run")) ∧
      read "run" ⟨race.directory⟩ = .ok (rivals true) := by
  intro turns race
  have same : ∀ first, (rivals first).id = "run" := fun _ => rfl
  have valid : isRunId "run" = true := by decide +kernel
  have apart : (begin (.present ∅)).ApartThroughout rivals turns := by decide +kernel
  obtain ⟨_, _, exclusive⟩ := racing_creations same valid (.present ∅) turns
  have clear : Clear (rivals true).id ∅ := ⟨by decide +kernel, by simp, by simp⟩
  let kept := DirectoryRepository.settled (rivals true) ("run" ++ ".json") ∅
  have created : create (rivals true) ⟨.present ∅⟩ = (.ok (), ⟨.present kept⟩) := by
    simp only [create, fileName, same, valid, if_true]
    exact clear.save
  have refused : create (rivals false) ⟨.present kept⟩ =
      (.error (.alreadyExists "run"), ⟨.present kept⟩) := by
    have there : (Directory.present kept).contains ("run" ++ ".json") = true :=
      congrArg Option.isSome (get?_settled (rivals true) _ ∅)
    simp only [create, fileName, same, valid, if_true, there]
  have ended : race = ((begin (.present ∅)).advance true (.done (.ok ()), .present kept)).advance
      false (.done (.error (.alreadyExists "run")), .present kept) := by
    have first := Creation.alone_eq_create (rivals true) (.present ∅)
    have second := Creation.alone_eq_create (rivals false) (.present kept)
    rw [created] at first
    rw [refused] at second
    simp only [race, turns]
    rw [play_append, play_replicate, play_replicate]
    simp only [begin, advance, if_false, Bool.false_eq_true, first, second]
  have done : race.stage true = .done (.ok ()) := by
    rw [ended]
    rfl
  refine ⟨same, valid, apart, done, ?_, (exclusive apart true done).1⟩
  rw [ended]
  rfl

/-! ## Overtaking -/

theorem Clear.alone {run : WorkflowRun} {entries : SortedMap DirectoryEntry}
    (clear : Clear run.id entries) :
    Creation.alone run 3 (Creation.atDirectory run, .present entries) =
      (.done (.ok ()), .present (DirectoryRepository.settled run (run.id ++ ".json") entries)) := by
  have written := Creation.alone_proceed run (writeSteps run (run.id ++ ".json")) (.present entries)
  have saved := clear.save
  rw [DirectoryRepository.save] at saved
  obtain ⟨answer, left⟩ := Prod.ext_iff.mp saved
  refine written.trans (Prod.ext ?_ ?_)
  · exact congrArg Creation.done answer
  · exact congrArg DirectoryRepository.directory left

theorem step_unchecked {run : WorkflowRun} {directory : Directory} (valid : isRunId run.id = true)
    (absent : directory.contains (run.id ++ ".json") = false) :
    Creation.unchecked.step run directory = (Creation.atDirectory run, directory) := by
  simp [Creation.step, fileName, valid, absent, Creation.atDirectory]

/-- Two creations whose checks both come before the first write both go well, and the run of the
first one is lost. -/
theorem overtaken {runs : Bool → WorkflowRun} (same : (runs false).id = (runs true).id)
    (valid : isRunId (runs true).id = true) {entries : SortedMap DirectoryEntry}
    (clear : Clear (runs true).id entries)
    (absent : entries.get? ((runs true).id ++ ".json") = none) :
    let race := (begin (.present entries)).play runs
      ([true, false] ++ List.replicate 3 true ++ List.replicate 3 false)
    race.stage true = .done (.ok ()) ∧ race.stage false = .done (.ok ()) ∧
      read (runs true).id ⟨race.directory⟩ = .ok (runs false) := by
  intro race
  have missing : (Directory.present entries).contains ((runs true).id ++ ".json") = false :=
    congrArg Option.isSome absent
  have first := step_unchecked valid missing
  have second : Creation.unchecked.step (runs false) (.present entries) =
      (Creation.atDirectory (runs false), .present entries) :=
    step_unchecked (by rw [same]; exact valid) (by rw [same]; exact missing)
  have checked : (begin (.present entries)).play runs [true, false] =
      ((begin (.present entries)).advance true (Creation.atDirectory (runs true),
        .present entries)).advance false (Creation.atDirectory (runs false), .present entries) := by
    change ((begin (.present entries)).advance true
        (Creation.unchecked.step (runs true) (.present entries))).advance false
          (Creation.unchecked.step (runs false)
            (Creation.unchecked.step (runs true) (.present entries)).2) = _
    rw [first, second]
  have ended : race = (((begin (.present entries)).play runs [true, false]).play runs
      (List.replicate 3 true)).play runs (List.replicate 3 false) := by
    simp only [race, play_append]
  have later : Clear (runs false).id
      (DirectoryRepository.settled (runs true) ((runs true).id ++ ".json") entries) := by
    rw [same]
    exact clear.settled
  have written := clear.alone
  have overwritten := later.alone
  rw [checked, play_replicate, play_replicate] at ended
  simp only [advance, if_true, if_false, Bool.false_eq_true, reduceCtorEq, written,
    overwritten] at ended
  rw [ended]
  refine ⟨rfl, rfl, ?_⟩
  have short := clear.short
  rw [← same] at valid short ⊢
  exact read_file valid short (get?_settled (runs false) _ _)

/-- Both creations of one id go well, and the run that is kept is not that of the first. -/
theorem racing_creations_not_exclusive :
    let race := (begin (.present ∅)).play rivals
      ([true, false] ++ List.replicate 3 true ++ List.replicate 3 false)
    (rivals false).id = (rivals true).id ∧ race.stage true = .done (.ok ()) ∧
      race.stage false = .done (.ok ()) ∧ read "run" ⟨race.directory⟩ = .ok (rivals false) ∧
      read "run" ⟨race.directory⟩ ≠ .ok (rivals true) := by
  intro race
  have clear : Clear "run" ∅ := ⟨by decide +kernel, by simp, by simp⟩
  obtain ⟨first, second, kept⟩ := @overtaken rivals rfl (by decide +kernel) ∅ clear rfl
  refine ⟨rfl, first, second, kept, ?_⟩
  change read "run" ⟨race.directory⟩ = .ok (rivals false) at kept
  rw [kept]
  simp [rivals, WorkflowRun.fresh]

end Race

end PrivateComputation
