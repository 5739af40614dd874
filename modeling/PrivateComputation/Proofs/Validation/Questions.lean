import PrivateComputation.Cloud.Inventory
import PrivateComputation.Proofs.Outcomes
import PrivateComputation.Validation.Suite

/-!
What the steps of a validation ask the cloud interfaces: verdicts depend on the answers to a few
questions about the environment only, and an inventory that does not fail answers all of them.
-/

namespace PrivateComputation

/-- The same answers to what the steps ask about an environment. The zones of the region are left
out, as one step asks for them. -/
structure Gateways.AgreeOn (environment : Environment) (one other : Gateways) : Prop where
  peerings : ∀ vpc, environment.network.vpc = some vpc →
    one.describeVpcPeerings vpc.id = other.describeVpcPeerings vpc.id
  policies : ∀ definition, environment.compute.containerDefinition = some definition →
    one.getPoliciesForRole definition.taskRoleId = other.getPoliciesForRole definition.taskRoleId
  logGroupName : ∀ definition, environment.compute.containerDefinition = some definition →
    one.extractLogGroupName definition.id = other.extractLogGroupName definition.id
  logGroup : ∀ definition name, environment.compute.containerDefinition = some definition →
    one.extractLogGroupName definition.id = .ok (some name) →
      one.describeLogGroup name = other.describeLogGroup name

/-- The same answers to what one step asks. Only a publisher has to ask for its peerings. -/
def Gateways.AgreeAt (role : ComputationRole) (environment : Environment) (one other : Gateways) :
    ValidationStep → Prop
  | .vpcPeering => role = .publisher → ∀ vpc, environment.network.vpc = some vpc →
      one.describeVpcPeerings vpc.id = other.describeVpcPeerings vpc.id
  | .subnets => one.describeAvailabilityZones = other.describeAvailabilityZones
  | .iamRoles => ∀ definition, environment.compute.containerDefinition = some definition →
      one.getPoliciesForRole definition.taskRoleId = other.getPoliciesForRole definition.taskRoleId
  | .logGroup => ∀ definition, environment.compute.containerDefinition = some definition →
      one.extractLogGroupName definition.id = other.extractLogGroupName definition.id ∧
      ∀ name, one.extractLogGroupName definition.id = .ok (some name) →
        one.describeLogGroup name = other.describeLogGroup name
  | .vpcCidr | .firewall | .routeTable | .clusterDefinition => True

theorem checkLogGroup_eq (gateways : Gateways) {environment : Environment}
    {definition : ContainerDefinition}
    (defined : environment.compute.containerDefinition = some definition) :
    checkLogGroup gateways environment =
      match gateways.extractLogGroupName definition.id with
      | .error fault => .error fault
      | .ok none => .ok (.warned [.loggingNotConfigured definition.id] [.configureLogging])
      | .ok (some name) =>
          (gateways.describeLogGroup name).map (fun group =>
            if group.any (fun group => group.name ≠ "") then .passed
            else .warned [.logGroupMissing name] [.createLogGroup name]) := by
  simp only [checkLogGroup, defined]
  cases gateways.extractLogGroupName definition.id with
  | error fault => rfl
  | ok name? =>
      cases name? with
      | none => rfl
      | some name =>
          simp only [bind, Except.bind, Except.map]
          cases gateways.describeLogGroup name with
          | error fault => rfl
          | ok group => exact (apply_ite Except.ok _ _ _).symm

namespace ValidationSuite

variable {role : ComputationRole} {standards : Standards} {environment : Environment}

theorem verdict_congr_of_agreeAt {one other : Gateways} {step : ValidationStep}
    (agree : Gateways.AgreeAt role environment one other step) :
    (⟨role, standards, one⟩ : ValidationSuite).verdict step environment =
      (⟨role, standards, other⟩ : ValidationSuite).verdict step environment := by
  cases step with
  | vpcCidr | firewall | routeTable | clusterDefinition => rfl
  | subnets =>
      have zones : one.describeAvailabilityZones = other.describeAvailabilityZones := agree
      simp only [verdict, checkSubnets, zones]
  | vpcPeering =>
      simp only [verdict, checkVpcPeering, judgedPeering]
      cases role with
      | partner => rfl
      | publisher =>
          cases there : environment.network.vpc with
          | none => rfl
          | some vpc => simp only [agree rfl vpc there]
  | iamRoles =>
      simp only [verdict, checkIamRoles]
      cases defined : environment.compute.containerDefinition with
      | none => rfl
      | some definition => simp only [agree definition defined]
  | logGroup =>
      simp only [verdict]
      cases defined : environment.compute.containerDefinition with
      | none => simp only [checkLogGroup, defined]
      | some definition =>
          obtain ⟨names, groups⟩ := agree definition defined
          rw [checkLogGroup_eq one defined, checkLogGroup_eq other defined, ← names]
          cases named : one.extractLogGroupName definition.id with
          | error fault => rfl
          | ok name? =>
              cases name? with
              | none => rfl
              | some name => simp only [groups name named]

theorem verdict_congr {one other : Gateways} (agree : Gateways.AgreeOn environment one other)
    (step : ValidationStep)
    (zones : step = .subnets →
      one.describeAvailabilityZones = other.describeAvailabilityZones) :
    (⟨role, standards, one⟩ : ValidationSuite).verdict step environment =
      (⟨role, standards, other⟩ : ValidationSuite).verdict step environment := by
  apply verdict_congr_of_agreeAt
  cases step with
  | vpcCidr | firewall | routeTable | clusterDefinition => trivial
  | subnets => exact zones rfl
  | vpcPeering => exact fun _ => agree.peerings
  | iamRoles => exact agree.policies
  | logGroup =>
      intro definition defined
      exact ⟨agree.logGroupName definition defined,
        fun name => agree.logGroup definition name defined⟩

theorem exists_verdict (inventory : CloudInventory) (role : ComputationRole)
    (standards : Standards) (environment : Environment) (step : ValidationStep) :
    ∃ verdict, (⟨role, standards, inventory.gateways []⟩ : ValidationSuite).verdict step
      environment = .ok verdict := by
  cases step with
  | vpcCidr | firewall | routeTable | clusterDefinition | subnets => exact ⟨_, rfl⟩
  | vpcPeering =>
      cases role with
      | partner => exact ⟨_, rfl⟩
      | publisher =>
          simp only [verdict, checkVpcPeering, judgedPeering]
          cases environment.network.vpc <;> exact ⟨_, rfl⟩
  | iamRoles =>
      simp only [verdict, checkIamRoles]
      cases environment.compute.containerDefinition <;> exact ⟨_, rfl⟩
  | logGroup =>
      simp only [verdict]
      cases defined : environment.compute.containerDefinition with
      | none => simp only [checkLogGroup, defined, Except.ok.injEq, exists_eq']
      | some definition =>
          have named : (inventory.gateways []).extractLogGroupName definition.id =
              .ok (inventory.taskLogGroups.get? definition.id) := rfl
          rw [checkLogGroup_eq _ defined, named]
          cases inventory.taskLogGroups.get? definition.id <;> exact ⟨_, rfl⟩

theorem check_of_verdict {suite : ValidationSuite} {step : ValidationStep} {verdict : Verdict}
    (judged : suite.verdict step environment = .ok verdict) :
    suite.check environment step = .ok (verdict.finding step) := by
  rw [check, judged]
  rfl

def Succeeds (suite : ValidationSuite) (environment : Environment) (step : ValidationStep) :
    Prop :=
  ∃ finding, suite.check environment step = .ok finding ∧ finding.code = .success

theorem exists_check (inventory : CloudInventory) (role : ComputationRole)
    (standards : Standards) (environment : Environment) (step : ValidationStep) :
    ∃ finding, (⟨role, standards, inventory.gateways []⟩ : ValidationSuite).check environment step =
      .ok finding := by
  obtain ⟨verdict, judged⟩ := exists_verdict inventory role standards environment step
  exact ⟨verdict.finding step, check_of_verdict judged⟩

theorem run_of_answers {suite : ValidationSuite} {finding : ValidationStep → Finding}
    (answers : ∀ step, suite.check environment step = .ok (finding step))
    (skipped : List ValidationStep) :
    suite.run environment skipped =
      .ok (((ValidationStep.all.filter (fun step => !skipped.contains step)).map finding).filter
        (fun finding => !finding.isSuccess)) := by
  have each (steps : List ValidationStep) :
      steps.mapM (suite.check environment) = .ok (steps.map finding) := by
    refine mapM_eq_ok_iff.mpr (List.forall₂_map_right_iff.mpr (List.forall₂_same.mpr ?_))
    exact fun step _ => answers step
  rw [run, each]
  rfl

end ValidationSuite

end PrivateComputation
