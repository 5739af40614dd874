import Mathlib.Data.List.Forall2
import PrivateComputation.Proofs.Outcomes
import PrivateComputation.Proofs.Validation.Questions

/-!
Skipping steps of a validation. A run consists of the steps that are not skipped, each of which
comes to what it comes to on its own, and it asks the cloud interfaces for nothing that only steps
that are skipped ask for.
-/

namespace PrivateComputation

theorem ValidationStep.name_injective {one other : ValidationStep} (same : one.name = other.name) :
    one = other := by
  revert same
  cases one <;> cases other <;> decide

/-! ## What a step asks for -/

inductive GatewayOperation where
  | describeVpcs
  | describeSubnets
  | describeRouteTables
  | describeFirewallRulesets
  | describeVpcPeerings
  | describeAvailabilityZones
  | describeClusters
  | describeContainerDefinitions
  | extractLogGroupName
  | getPoliciesForRole
  | describeLogGroup

def GatewayOperation.Agrees (one other : Gateways) : GatewayOperation → Prop
  | .describeVpcs => one.describeVpcs = other.describeVpcs
  | .describeSubnets => one.describeSubnets = other.describeSubnets
  | .describeRouteTables => one.describeRouteTables = other.describeRouteTables
  | .describeFirewallRulesets => one.describeFirewallRulesets = other.describeFirewallRulesets
  | .describeVpcPeerings => one.describeVpcPeerings = other.describeVpcPeerings
  | .describeAvailabilityZones => one.describeAvailabilityZones = other.describeAvailabilityZones
  | .describeClusters => one.describeClusters = other.describeClusters
  | .describeContainerDefinitions =>
      one.describeContainerDefinitions = other.describeContainerDefinitions
  | .extractLogGroupName => one.extractLogGroupName = other.extractLogGroupName
  | .getPoliciesForRole => one.getPoliciesForRole = other.getPoliciesForRole
  | .describeLogGroup => one.describeLogGroup = other.describeLogGroup

/-- The operations that a step uses. Only a publisher has to ask for its peering connections. -/
def ValidationStep.operations (role : ComputationRole) : ValidationStep → List GatewayOperation
  | .vpcPeering =>
      match role with
      | .publisher => [.describeVpcPeerings]
      | .partner => []
  | .subnets => [.describeAvailabilityZones]
  | .iamRoles => [.getPoliciesForRole]
  | .logGroup => [.extractLogGroupName, .describeLogGroup]
  | .vpcCidr | .firewall | .routeTable | .clusterDefinition => []

namespace ValidationSuite

variable {suite : ValidationSuite} {environment : Environment} {skipped : List ValidationStep}

theorem check_congr {gateways : Gateways} {step : ValidationStep}
    (same : ∀ operation ∈ step.operations suite.role, operation.Agrees suite.gateways gateways) :
    ({ suite with gateways } : ValidationSuite).check environment step =
      suite.check environment step := by
  have agree : Gateways.AgreeAt suite.role environment suite.gateways gateways step := by
    obtain ⟨role, standards, original⟩ := suite
    cases step with
    | vpcCidr | firewall | routeTable | clusterDefinition => trivial
    | subnets => exact same .describeAvailabilityZones List.mem_cons_self
    | vpcPeering =>
        rintro rfl vpc -
        exact congrFun (same .describeVpcPeerings List.mem_cons_self) vpc.id
    | iamRoles =>
        intro definition _
        exact congrFun (same .getPoliciesForRole List.mem_cons_self) definition.taskRoleId
    | logGroup =>
        intro definition _
        have names := same .extractLogGroupName List.mem_cons_self
        have groups := same .describeLogGroup (List.mem_cons_of_mem _ List.mem_cons_self)
        exact ⟨congrFun names definition.id, fun name _ => congrFun groups name⟩
  exact congrArg (Except.map _) (ValidationSuite.verdict_congr_of_agreeAt agree).symm

/-! ## Runs -/

def remaining (skipped : List ValidationStep) : List ValidationStep :=
  ValidationStep.all.filter (fun step => step ∉ skipped)

theorem run_eq : suite.run environment skipped =
    (do
      let findings ← (remaining skipped).mapM (suite.check environment)
      .ok (findings.filter (fun finding => !finding.isSuccess))) := by
  have same : ValidationStep.all.filter (fun step => !skipped.contains step) =
      remaining skipped := by
    simp [remaining]
  rw [run, same]

theorem mem_remaining_iff {step : ValidationStep} : step ∈ remaining skipped ↔ step ∉ skipped := by
  simp [remaining, ValidationStep.mem_all]

structure Answers (suite : ValidationSuite) (environment : Environment) (step : ValidationStep)
    (finding : Finding) : Prop where
  checked : suite.check environment step = .ok finding
  named : finding.step = some step.name

theorem answers_iff {step : ValidationStep} {finding : Finding} :
    suite.Answers environment step finding ↔ suite.check environment step = .ok finding := by
  refine ⟨Answers.checked, fun checked => ⟨checked, ?_⟩⟩
  rw [check] at checked
  cases judged : suite.verdict step environment with
  | error fault => rw [judged] at checked; cases checked
  | ok verdict =>
      rw [judged] at checked
      cases checked
      rfl

theorem run_eq_ok_iff {findings : List Finding} : suite.run environment skipped = .ok findings ↔
    ∃ answers, List.Forall₂ (suite.Answers environment) (remaining skipped) answers ∧
      findings = answers.filter (fun finding => !finding.isSuccess) := by
  have each : suite.Answers environment =
      fun step finding => suite.check environment step = .ok finding :=
    funext₂ (fun _ _ => propext answers_iff)
  rw [each]
  constructor
  · intro came
    obtain ⟨answers, mapped, done⟩ := exists_of_bind_eq_ok (run_eq.symm.trans came)
    exact ⟨answers, mapM_eq_ok_iff.mp mapped, (Except.ok.inj done).symm⟩
  · rintro ⟨answers, all, rfl⟩
    rw [run_eq, mapM_eq_ok_iff.mpr all]
    rfl

theorem run_eq_error_iff {fault : GatewayFault} : suite.run environment skipped = .error fault ↔
    FailsFirst (suite.check environment) (remaining skipped) fault := by
  rw [← mapM_eq_error_iff, run_eq]
  cases (remaining skipped).mapM (suite.check environment) with
  | error other => exact Iff.rfl
  | ok findings => exact iff_of_false nofun nofun

theorem exists_run_iff : (∃ findings, suite.run environment skipped = .ok findings) ↔
    ∀ step ∉ skipped, ∃ finding, suite.check environment step = .ok finding := by
  constructor
  · rintro ⟨findings, came⟩ step kept
    obtain ⟨answers, all, -⟩ := run_eq_ok_iff.mp came
    obtain ⟨finding, -, answered⟩ := exists_partner all (mem_remaining_iff.mpr kept)
    exact ⟨finding, answered.checked⟩
  · intro each
    cases came : suite.run environment skipped with
    | ok findings => exact ⟨findings, rfl⟩
    | error fault =>
        obtain ⟨earlier, step, later, split, -, fails⟩ := run_eq_error_iff.mp came
        have member : step ∈ remaining skipped := by simp [split]
        obtain ⟨finding, checked⟩ := each step (mem_remaining_iff.mp member)
        cases fails.symm.trans checked

theorem Answers.kept_iff {step : ValidationStep} {finding : Finding}
    (answer : suite.Answers environment step finding) :
    step ∉ skipped ↔ ∀ other ∈ skipped, finding.step ≠ some other.name := by
  rw [answer.named]
  constructor
  · intro kept other member same
    obtain rfl := ValidationStep.name_injective (Option.some.inj same)
    exact kept member
  · exact fun apart member => apart step member rfl

theorem run_of_unskipped {findings : List Finding}
    (came : suite.run environment [] = .ok findings) :
    suite.run environment skipped =
      .ok (findings.filter (fun finding => ∀ step ∈ skipped, finding.step ≠ some step.name)) := by
  obtain ⟨answers, all, rfl⟩ := run_eq_ok_iff.mp came
  have everything : remaining [] = ValidationStep.all := rfl
  rw [everything] at all
  refine run_eq_ok_iff.mpr ⟨answers.filter
    (fun finding => ∀ step ∈ skipped, finding.step ≠ some step.name), ?_, ?_⟩
  · -- The answers of the steps that remain are found by the names that they bear.
    refine List.rel_filter ?_ all
    intro step finding answer
    simpa only [decide_eq_true_eq] using answer.kept_iff
  · -- What is skipped and what is no success are picked independently of each other.
    rw [List.filter_filter, List.filter_filter]
    simp only [Bool.and_comm]

theorem run_congr {gateways : Gateways}
    (same : ∀ step ∉ skipped, ∀ operation ∈ step.operations suite.role,
      operation.Agrees suite.gateways gateways) :
    ({ suite with gateways } : ValidationSuite).run environment skipped =
      suite.run environment skipped := by
  rw [run_eq, run_eq, mapM_congr]
  exact fun step kept => check_congr (same step (mem_remaining_iff.mp kept))

end ValidationSuite

/-- A run comes to findings if each step that is not skipped does so on its own, and keeps those
that are no success in the order of the steps; if not, it fails as the first of them that fails. So
it leaves out of the findings of all steps those of the steps that are skipped, and what only these
ask for has no effect. -/
theorem skipping_exact (suite : ValidationSuite) (environment : Environment)
    (skipped : List ValidationStep) :
    ((∃ findings, suite.run environment skipped = .ok findings) ↔
      ∀ step ∉ skipped, ∃ finding, suite.check environment step = .ok finding) ∧
    (∀ findings, suite.run environment skipped = .ok findings ↔
      ∃ answers, List.Forall₂ (suite.Answers environment)
          (ValidationStep.all.filter (fun step => step ∉ skipped)) answers ∧
        findings = answers.filter (fun finding => !finding.isSuccess)) ∧
    (∀ fault, suite.run environment skipped = .error fault ↔
      FailsFirst (suite.check environment)
        (ValidationStep.all.filter (fun step => step ∉ skipped)) fault) ∧
    (∀ findings, suite.run environment [] = .ok findings →
      suite.run environment skipped =
        .ok (findings.filter (fun finding => ∀ step ∈ skipped, finding.step ≠ some step.name))) ∧
    (∀ gateways, (∀ step ∉ skipped, ∀ operation ∈ step.operations suite.role,
        operation.Agrees suite.gateways gateways) →
      ({ suite with gateways } : ValidationSuite).run environment skipped =
        suite.run environment skipped) :=
  ⟨ValidationSuite.exists_run_iff, fun _ => ValidationSuite.run_eq_ok_iff,
    fun _ => ValidationSuite.run_eq_error_iff, fun _ => ValidationSuite.run_of_unskipped,
    fun _ => ValidationSuite.run_congr⟩

end PrivateComputation
