import PrivateComputation.Cloud.Format
import PrivateComputation.Proofs.Json.Equality
import PrivateComputation.Proofs.Validation.Questions

/-!
The policies that are attached to the task role, against the policy that is expected. One of the
names under which the expected policy is attached is kept, and everything else that is attached
stands between the role and success, even another copy of the policy.
-/

namespace PrivateComputation

/-! ## The judgement -/

/-- The expected policy is attached under this name, in whichever order its members are listed. -/
def HoldsPolicy (taskPolicy : SortedJson) (policies : SortedMap SortedJson) (name : String) :
    Prop :=
  ∃ document, policies.get? name = some document ∧ document.json.Alike taskPolicy.json

inductive PolicyVerdict (taskPolicy : SortedJson) (roleId : String)
    (policies : SortedMap SortedJson) : Verdict → Prop
  | passed {name : String} (one : policies.size = 1)
      (holds : HoldsPolicy taskPolicy policies name) :
      PolicyVerdict taskPolicy roleId policies .passed
  | warned {name : String} {extra : List String} (several : 1 < policies.size)
      (holds : HoldsPolicy taskPolicy policies name)
      (lists : ListsExactly extra (fun other => policies.contains other = true ∧ other ≠ name)) :
      PolicyVerdict taskPolicy roleId policies
        (.warned [.extraPolicies roleId extra] [.detachPolicies roleId extra])
  | failed {problem : Problem} (without : ∀ name, ¬ HoldsPolicy taskPolicy policies name) :
      PolicyVerdict taskPolicy roleId policies (.failed [problem] [.attachTaskPolicy roleId])

section Judgement

variable {taskPolicy : SortedJson} {policies : SortedMap SortedJson} {name : String}
  {extra : List String}

theorem HoldsPolicy.size_pos (holds : HoldsPolicy taskPolicy policies name) :
    0 < policies.size := by
  obtain ⟨document, attached, -⟩ := holds
  exact List.length_pos_of_mem (SortedMap.mem_of_get? attached)

namespace PolicyVerdict

variable {roleId : String} {verdict : Verdict}

theorem warning_iff (told : PolicyVerdict taskPolicy roleId policies verdict) :
    verdict.code = .warning ↔ 1 < policies.size ∧ ∃ name, HoldsPolicy taskPolicy policies name := by
  cases told with
  | passed one holds => exact iff_of_false nofun (fun both => Nat.ne_of_gt both.1 one)
  | warned several holds lists => exact iff_of_true rfl ⟨several, _, holds⟩
  | failed without => exact iff_of_false nofun (fun ⟨_, name, holds⟩ => without name holds)

theorem error_iff (told : PolicyVerdict taskPolicy roleId policies verdict) :
    verdict.code = .error ↔ ∀ name, ¬ HoldsPolicy taskPolicy policies name := by
  cases told with
  | passed one holds => exact iff_of_false nofun (fun without => without _ holds)
  | warned several holds lists => exact iff_of_false nofun (fun without => without _ holds)
  | failed without => exact iff_of_true rfl without

end PolicyVerdict

/-! ## Attaching and detaching -/

def SortedMap.without (policies : SortedMap SortedJson) (names : List String) :
    SortedMap SortedJson :=
  policies.filterKeys (fun name => !names.contains name)

theorem get?_without (policies : SortedMap SortedJson) (names : List String) (name : String) :
    (policies.without names).get? name = if name ∈ names then none else policies.get? name := by
  rw [SortedMap.without, SortedMap.get?_filterKeys]
  by_cases listed : name ∈ names <;> simp [listed]

section Without

variable (lists : ListsExactly extra (fun other => policies.contains other = true ∧ other ≠ name))
  (holds : HoldsPolicy taskPolicy policies name)

include lists holds

theorem HoldsPolicy.without : HoldsPolicy taskPolicy (policies.without extra) name := by
  obtain ⟨document, attached, alike⟩ := holds
  refine ⟨document, ?_, alike⟩
  rw [get?_without, if_neg (fun listed => ((lists.mem_iff name).mp listed).2 rfl), attached]

end Without

end Judgement

/-! ## The step -/

/-- The policies that a role is told to have; none if there is no such role. -/
def Gateways.policies (gateways : Gateways) (roleId : String) :
    GatewayResult (SortedMap SortedJson) :=
  (gateways.getPoliciesForRole roleId).map (fun role => (role.map IamRole.policies).getD ∅)

namespace ValidationSuite

variable {suite : ValidationSuite} {environment : Environment} {definition : ContainerDefinition}
  {policies : SortedMap SortedJson}

variable (defined : environment.compute.containerDefinition = some definition)
  (answered : suite.gateways.policies definition.taskRoleId = .ok policies)

include defined answered

end ValidationSuite

end PrivateComputation
