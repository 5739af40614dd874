import Mathlib.Control.Monad.Basic
import Mathlib.Tactic.Choose
import PrivateComputation.CommandLine.Perform
import PrivateComputation.Proofs.Validation.Holdings
import PrivateComputation.Proofs.Validation.Questions

/-!
A validation of a recorded inventory that answers every question: it always comes to a report, and
the report passes exactly when nothing is held twice and no step that is run finds an error.
-/

namespace PrivateComputation

namespace ValidationReport

theorem exitCode_eq_zero_iff (report : ValidationReport) :
    report.exitCode = 0 ↔ report.passed = true := by
  rw [exitCode]
  split <;> simp [*]

theorem passed_iff (report : ValidationReport) :
    report.passed = true ↔
      report.duplicates = [] ∧ ∀ finding ∈ report.findings, finding.code ≠ .error := by
  simp [passed, Finding.isError]

end ValidationReport

namespace ValidationSuite

variable {suite : ValidationSuite} {environment : Environment} {skipped : List ValidationStep}
  {findings : List Finding}

theorem exists_run (answers : ∀ step, ∃ finding, suite.check environment step = .ok finding) :
    ∃ findings, suite.run environment skipped = .ok findings := by
  choose finding answers using answers
  exact ⟨_, run_of_answers answers skipped⟩

theorem forall_run_iff (answers : ∀ step, ∃ finding, suite.check environment step = .ok finding)
    (ran : suite.run environment skipped = .ok findings) :
    (∀ finding ∈ findings, finding.code ≠ .error) ↔
      ∀ step, step ∉ skipped →
        ∃ finding, suite.check environment step = .ok finding ∧ finding.code ≠ .error := by
  choose finding answers using answers
  rw [run_of_answers answers, Except.ok.injEq] at ran
  subst ran
  constructor
  · intro clean step runs
    refine ⟨finding step, answers step, ?_⟩
    intro fails
    refine clean (finding step) ?_ fails
    refine List.mem_filter.mpr ⟨List.mem_map.mpr ⟨step, ?_, rfl⟩, ?_⟩
    · exact List.mem_filter.mpr ⟨step.mem_all, by simpa using runs⟩
    · simp [Finding.isSuccess, fails]
  · intro clean reported member
    obtain ⟨there, -⟩ := List.mem_filter.mp member
    obtain ⟨step, stepRuns, rfl⟩ := List.mem_map.mp there
    obtain ⟨other, found, fine⟩ := clean step (by simpa using (List.mem_filter.mp stepRuns).2)
    rw [answers step, Except.ok.injEq] at found
    exact found ▸ fine

end ValidationSuite

namespace CloudInventory

variable (inventory : CloudInventory) (settings : Settings)

def suite : ValidationSuite :=
  ⟨settings.role, settings.standards, inventory.gateways []⟩

def reportOf (createdAt : Instant) (id : String) (findings : List Finding) : ValidationReport where
  createdAt := createdAt
  environmentId := id
  region := settings.region
  role := settings.role
  duplicates := inventory.duplicatesOf id
  skipped := settings.skipped
  findings := if inventory.duplicatesOf id = [] then findings else []

variable {inventory settings} {id : String} {findings : List Finding}

theorem withStandards_gateways (accepted : settings.standards.validate = .ok ()) :
    ValidationSuite.withStandards settings.role settings.standards (inventory.gateways []) =
      .ok (inventory.suite settings) := by
  rw [ValidationSuite.withStandards, accepted]
  rfl

abbrev Finds (inventory : CloudInventory) (settings : Settings) (id : String)
    (findings : List Finding) : Prop :=
  (inventory.suite settings).run (inventory.environmentOf id settings.region) settings.skipped =
    .ok findings

theorem findings_gateways (ran : inventory.Finds settings id findings) :
    (inventory.suite settings).findings id settings.region settings.skipped = .ok findings := by
  rw [ValidationSuite.findings, suite, loadEnvironment_faultless]
  exact ran

theorem report_gateways (createdAt : Instant) (ran : inventory.Finds settings id findings) :
    (inventory.suite settings).report createdAt id settings.region settings.skipped =
      .ok (inventory.reportOf settings createdAt id findings) := by
  rw [ValidationSuite.report, findings_gateways ran, suite, findDuplicates_faultless, reportOf]
  cases inventory.duplicatesOf id <;> rfl

theorem validateWith_gateways (accepted : settings.standards.validate = .ok ())
    (place : Workplace) (asJson : Bool) (ran : inventory.Finds settings id findings) :
    place.validateWith settings (inventory.gateways []) id asJson =
      place.say (inventory.reportOf settings place.now id findings).exitCode
        (Workplace.reportLines (inventory.reportOf settings place.now id findings) asJson) := by
  simp only [Workplace.validateWith, findDuplicates_faultless, Workplace.reportOn,
    withStandards_gateways accepted, findings_gateways ran, reportOf]
  cases inventory.duplicatesOf id <;> rfl

end CloudInventory

namespace ValidationReport

/-- What a report says of an environment of an inventory. -/
structure Judges (report : ValidationReport) (inventory : CloudInventory) (id : String)
    (suite : ValidationSuite) (environment : Environment) (skipped : List ValidationStep) :
    Prop where
  exitCode_iff : report.exitCode = 0 ↔ report.passed = true
  passed_iff : report.passed = true ↔ inventory.Unambiguous id ∧
    ∀ step, step ∉ skipped →
      ∃ finding, suite.check environment step = .ok finding ∧ finding.code ≠ .error
  warned : report.duplicates = [] → (∀ finding ∈ report.findings, finding.code = .warning) →
    report.passed = true
  duplicates : report.duplicates = inventory.duplicatesOf id
  reported : report.duplicates = [] → suite.run environment skipped = .ok report.findings
  withheld : report.duplicates ≠ [] → report.findings = []

end ValidationReport

theorem CloudInventory.Finds.judges {inventory : CloudInventory} {settings : Settings} {id : String}
    {findings : List Finding} (createdAt : Instant)
    (ran : inventory.Finds settings id findings) :
    (inventory.reportOf settings createdAt id findings).Judges inventory id
      (inventory.suite settings) (inventory.environmentOf id settings.region)
      settings.skipped := by
  have answers : ∀ step, ∃ finding, (inventory.suite settings).check
      (inventory.environmentOf id settings.region) step = .ok finding :=
    ValidationSuite.exists_check inventory _ _ _
  have kept : inventory.duplicatesOf id = [] →
      (inventory.reportOf settings createdAt id findings).findings = findings :=
    fun unambiguous => if_pos unambiguous
  constructor
  case exitCode_iff => exact ValidationReport.exitCode_eq_zero_iff _
  case passed_iff =>
    rw [ValidationReport.passed_iff, ← ValidationSuite.forall_run_iff answers ran,
      ← duplicatesOf_eq_nil_iff]
    refine and_congr_right ?_
    intro unambiguous
    rw [kept unambiguous]
  case warned =>
    intro unambiguous warned
    refine (ValidationReport.passed_iff _).mpr ⟨unambiguous, ?_⟩
    intro finding member
    rw [warned finding member]
    decide
  case duplicates => rfl
  case reported =>
    intro unambiguous
    rw [kept unambiguous]
    exact ran
  case withheld => exact fun ambiguous => if_neg ambiguous

/-- A validation that gets all its answers comes to a report, and the report passes if nothing is
held twice and no step finds an error, and in no other case. -/
theorem passes_exactly (place : Workplace) (settings : Settings)
    (accepted : settings.standards.validate = .ok ()) (inventory : CloudInventory) (id : String)
    (asJson : Bool) :
    let gateways := inventory.gateways []
    ∃ suite environment report,
      ValidationSuite.withStandards settings.role settings.standards gateways = .ok suite ∧
      loadEnvironment gateways id settings.region = .ok environment ∧
      suite.report place.now id settings.region settings.skipped = .ok report ∧
      place.validateWith settings gateways id asJson =
        place.say report.exitCode (Workplace.reportLines report asJson) ∧
      report.Judges inventory id suite environment settings.skipped := by
  intro gateways
  have answers := ValidationSuite.exists_check inventory settings.role settings.standards
    (inventory.environmentOf id settings.region)
  obtain ⟨findings, ran⟩ : ∃ findings, inventory.Finds settings id findings :=
    ValidationSuite.exists_run answers
  exact ⟨inventory.suite settings, inventory.environmentOf id settings.region,
    inventory.reportOf settings place.now id findings,
    CloudInventory.withStandards_gateways accepted,
    CloudInventory.loadEnvironment_faultless settings.region,
    CloudInventory.report_gateways place.now ran,
    CloudInventory.validateWith_gateways accepted place asJson ran, ran.judges place.now⟩

theorem passes_exactly_of_sample :
    let settings : Settings :=
      ⟨.partner, "us-west-2", [], .default, ⟨"runner", 500, "state"⟩⟩
    let suite := CloudInventory.sample.suite settings
    settings.standards.validate = .ok () ∧
      ∃ report, suite.report .epoch "environment" settings.region settings.skipped = .ok report ∧
        report.findings.map Finding.code = [.warning] ∧ report.exitCode = 0 ∧
        CloudInventory.sample.Unambiguous "environment" := by
  intro settings suite
  have accepted : settings.standards.validate = .ok () := by decide +kernel
  obtain ⟨built, _, report, accepts, _, reported, _, judges⟩ :=
    passes_exactly ⟨.empty, none, .epoch, "run", fun _ => ""⟩ settings accepted .sample
      "environment" false
  obtain rfl : built = suite :=
    Except.ok.inj (accepts.symm.trans (CloudInventory.withStandards_gateways accepted))
  have outcome : (suite.report .epoch "environment" settings.region settings.skipped).toOption.map
      (fun report => (report.findings.map Finding.code, report.exitCode)) =
        some ([.warning], 0) := by
    decide +kernel
  rw [reported] at outcome
  obtain ⟨codes, exitCode⟩ := Prod.mk.inj (Option.some.inj outcome)
  exact ⟨accepted, report, reported, codes, exitCode,
    (judges.passed_iff.mp (judges.exitCode_iff.mp exitCode)).1⟩

end PrivateComputation
