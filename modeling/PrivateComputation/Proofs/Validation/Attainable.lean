import Mathlib.Tactic.Choose
import PrivateComputation.Proofs.Cloud.AddressText
import PrivateComputation.Proofs.Json.Equality
import PrivateComputation.Proofs.Validation.Containment
import PrivateComputation.Proofs.Validation.Holdings
import PrivateComputation.Proofs.Validation.Zones

/-!
Which standards can be met. All that standards ask for can be set up as they ask for it, except for
the network, of which the base block may leave none: a network has to start in a private block, and
a base block need not have one.
-/

namespace PrivateComputation

/-! ## Base blocks with room for a network -/

namespace AddressBlock

def resized (block : AddressBlock) (length : Fin 33) : AddressBlock :=
  ⟨block.address, length, block.address_lt, Nat.le_of_lt_succ length.isLt⟩

def single (address : Nat) (bound : address < UInt32.size) : AddressBlock :=
  ⟨address, 32, bound, le_rfl⟩

theorem network_single {address : Nat} (bound : address < UInt32.size) :
    (single address bound).network = address := by
  simp [single, network, size]

theorem broadcast_single {address : Nat} (bound : address < UInt32.size) :
    (single address bound).broadcast = address := by
  simp [single, broadcast, network, size]

/-- A base block has a private address from its written address on, or a block that is written with
the same address and ends no later starts in a private block. -/
def Offers (base : AddressBlock) : Prop :=
  (∃ range ∈ privateBlocks, base.address ≤ range.broadcast ∧ range.network ≤ base.broadcast) ∨
    ∃ length : Fin 33, (base.resized length).broadcast ≤ base.broadcast ∧
      ∃ range ∈ privateBlocks, (base.resized length).network ∈ range

instance (base : AddressBlock) : Decidable base.Offers := inferInstanceAs (Decidable (_ ∨ _))

variable {block base : AddressBlock}

theorem letThrough_iff_bounds : block.LetThrough base ↔
    (∃ range ∈ privateBlocks, block.network ∈ range) ∧ base.address ≤ block.address ∧
      block.broadcast ≤ base.broadcast := by
  rw [← letThrough_iff, Bool.and_eq_true, isPrivateAddress_iff]
  simp [isWithin]

theorem exists_resized (shared : base.address ∈ block) : ∃ length : Fin 33,
    (base.resized length).network = block.network ∧
      (base.resized length).broadcast = block.broadcast := by
  let length : Fin 33 := ⟨block.length, Nat.lt_succ_of_le block.length_le⟩
  have same : base.address / block.size = block.address / block.size := mem_iff_div.mp shared
  have network : (base.resized length).network = block.network := congrArg (· * block.size) same
  exact ⟨length, network, congrArg (· + (block.size - 1)) network⟩

theorem LetThrough.offers (passes : block.LetThrough base) : base.Offers := by
  obtain ⟨⟨range, member, starts⟩, written, last⟩ := letThrough_iff_bounds.mp passes
  have bounds := mem_iff_range.mp starts
  rcases Nat.le_total base.address block.network with behind | before
  · have upTo := block.network_le_broadcast
    exact .inl ⟨range, member, behind.trans bounds.2, bounds.1.trans (upTo.trans last)⟩
  · have shared : base.address ∈ block :=
      mem_iff_range.mpr ⟨before, written.trans (mem_iff_range.mp block.address_mem).2⟩
    obtain ⟨length, network, broadcast⟩ := exists_resized shared
    exact .inr ⟨length, broadcast ▸ last, range, member, network ▸ starts⟩

theorem Offers.exists_letThrough (offers : base.Offers) :
    ∃ block : AddressBlock, block.LetThrough base := by
  rcases offers with ⟨range, member, first, last⟩ | ⟨length, last, starts⟩
  · -- The two ranges share the later one of their first addresses.
    have inBase := mem_iff_range.mp base.address_mem
    have inRange := range.network_le_broadcast
    have bound : max base.address range.network < UInt32.size :=
      max_lt base.address_lt ((Nat.div_mul_le_self _ _).trans_lt range.address_lt)
    refine ⟨single _ bound, letThrough_iff_bounds.mpr ⟨⟨range, member, ?_⟩, ?_, ?_⟩⟩
    · rw [network_single]
      exact mem_iff_range.mpr ⟨le_max_right _ _, max_le first inRange⟩
    · exact le_max_left _ _
    · rw [broadcast_single]
      exact max_le inBase.2 last
  · have written : base.address ≤ (base.resized length).address := le_rfl
    exact ⟨base.resized length, letThrough_iff_bounds.mpr ⟨starts, written, last⟩⟩

theorem exists_letThrough_iff : (∃ block : AddressBlock, block.LetThrough base) ↔ base.Offers :=
  ⟨fun ⟨_, passes⟩ => passes.offers, Offers.exists_letThrough⟩

end AddressBlock

/-! ## An inventory that meets standards -/

/-- The sample, for both roles and as the standards ask for it, with a log group and with this block
for its network. -/
def CloudInventory.meeting (standards : Standards) (cidr : String) : CloudInventory :=
  let tags : Tags := SortedMap.empty.insert environmentTag "environment"
  { CloudInventory.sample with
    vpcs := [⟨"vpc-1", cidr, tags⟩]
    firewallRulesets :=
      [⟨"sg-1", "vpc-1",
        [⟨standards.firewallFromPort, standards.firewallToPort, "tcp", "10.0.0.0/16"⟩], [], tags⟩]
    vpcPeerings := [⟨"pcx-1", .active, .accepter, "vpc-2", "vpc-1", none, none, ∅⟩]
    containerDefinitions :=
      [⟨"task-1", standards.containerImage, standards.containerCpu, standards.containerMemory, [],
        ∅, "role-1", tags⟩]
    roles := [⟨"role-1", SortedMap.empty.insert "task-policy" standards.taskPolicy⟩]
    logGroups := [⟨"/task"⟩] }

def Environment.meeting (standards : Standards) (cidr : String) : Environment :=
  let inventory := CloudInventory.meeting standards cidr
  { id := "environment"
    region := "us-west-2"
    network := ⟨inventory.vpcs.head?, inventory.subnets, inventory.routeTables.head?,
      inventory.vpcPeerings.head?, inventory.firewallRulesets⟩
    compute := ⟨inventory.clusters.head?, inventory.containerDefinitions.head?⟩ }

section Meeting

variable (standards : Standards) (cidr : String)

theorem environmentOf_meeting :
    (CloudInventory.meeting standards cidr).environmentOf "environment" "us-west-2" =
      Environment.meeting standards cidr := by
  simp [CloudInventory.environmentOf, Environment.meeting, CloudInventory.meeting,
    CloudInventory.sample, CloudInventory.firstVpc?, CloudInventory.peeringsFor, belongsTo,
    TagFilter.selects, TagFilter.environment, Tagged.tags, VpcPeering.involves]

theorem unambiguous_meeting :
    (CloudInventory.meeting standards cidr).Unambiguous "environment" where
  vpcs := List.length_filter_le _ _
  routeTables := List.length_filter_le _ _
  peerings _ _ := List.length_filter_le _ _
  clusters := List.length_filter_le _ _
  containerDefinitions := List.length_filter_le _ _

end Meeting

/-! ## Its verdicts -/

section Verdicts

variable {standards : Standards} {cidr : String}

theorem checkFirewall_meeting (written : cidr ≠ "") :
    checkFirewall standards (Environment.meeting standards cidr) = .passed := by
  have meets : ∀ fromPort toPort, ruleMeetsRoute ⟨fromPort, toPort, "tcp", "10.0.0.0/16"⟩
      ⟨"10.0.0.0/16", ⟨"pcx-1", .vpcPeering⟩, .active⟩ = true := by
    intro fromPort toPort
    have read : AddressBlock.ofText "10.0.0.0/16" =
        .ok ⟨addressOfBytes 10 0 0 0, 16, by decide, by decide⟩ := by
      decide +kernel
    simp only [ruleMeetsRoute, read]
    decide
  simp [checkFirewall, Environment.meeting, CloudInventory.meeting, CloudInventory.sample, written,
    Route.isPeering, routeFailings, routeWarnings, meetingRanges, meets, portRange,
    PortRange.isTooNarrow, PortRange.isTooWide, Verdict.ofProblems]

theorem judgePolicies_single (taskPolicy : SortedJson) (roleId name : String) :
    judgePolicies taskPolicy roleId (SortedMap.empty.insert name taskPolicy) = .passed := by
  have same : (taskPolicy == taskPolicy) = true := Json.sameValue_refl taskPolicy.json
  simp [judgePolicies, SortedMap.isEmpty, SortedMap.insert, SortedMap.empty, insertEntry,
    SortedMap.size, same]

theorem verdict_meeting {role : ComputationRole} {base block : AddressBlock}
    (baseRead : AddressBlock.ofText (standards.baseCidr role) = .ok base)
    (read : AddressBlock.ofText cidr = .ok block) (passes : block.LetThrough base) :
    ∀ step, (⟨role, standards, (CloudInventory.meeting standards cidr).gateways []⟩ :
      ValidationSuite).verdict step (Environment.meeting standards cidr) = .ok .passed := by
  intro step
  cases step with
  | vpcCidr =>
      have present : (Environment.meeting standards cidr).network.vpc =
          some ⟨"vpc-1", cidr, SortedMap.empty.insert environmentTag "environment"⟩ := rfl
      have readable := checkVpcCidr_of_readable present baseRead read
      rw [if_pos (AddressBlock.letThrough_iff.mpr passes)] at readable
      exact congrArg Except.ok readable
  | vpcPeering =>
      cases role with
      | partner => rfl
      | publisher =>
          simp [ValidationSuite.verdict, checkVpcPeering, judgedPeering, Environment.meeting,
            CloudInventory.meeting, CloudInventory.gateways, CloudInventory.answer,
            VpcPeering.involves, judgePeering, bind, Except.bind, Except.map]
  | firewall =>
      -- A network whose block can be read has one on record.
      refine congrArg Except.ok (checkFirewall_meeting ?_)
      rintro rfl
      have unread : AddressBlock.ofText "" = .error (.address "") := by decide +kernel
      cases unread.symm.trans read
  | routeTable =>
      -- The table depends neither on the standards nor on the block.
      have passes : checkRouteTable (Environment.meeting .default "") = .passed := by decide +kernel
      exact congrArg Except.ok passes
  | subnets =>
      let gateways := (CloudInventory.meeting standards cidr).gateways []
      have answered : gateways.describeAvailabilityZones =
          .ok (Environment.meeting standards cidr).zones := rfl
      rw [ValidationSuite.verdict_subnets answered, judgeZones_of_same _ (fun _ => Iff.rfl)]
  | clusterDefinition =>
      simp [ValidationSuite.verdict, checkClusterDefinition, Environment.meeting,
        CloudInventory.meeting, Verdict.ofProblems]
  | iamRoles =>
      simp [ValidationSuite.verdict, checkIamRoles, Environment.meeting, CloudInventory.meeting,
        CloudInventory.gateways, CloudInventory.answer, judgePolicies_single, bind, Except.bind]
  | logGroup =>
      simp [ValidationSuite.verdict, checkLogGroup, Environment.meeting, CloudInventory.meeting,
        CloudInventory.gateways, CloudInventory.answer, CloudInventory.sample,
        bind, Except.bind]

theorem succeeds_meeting {role : ComputationRole} {base block : AddressBlock}
    (baseRead : AddressBlock.ofText (standards.baseCidr role) = .ok base)
    (passes : block.LetThrough base) (step : ValidationStep) :
    (⟨role, standards, (CloudInventory.meeting standards block.text).gateways []⟩ :
      ValidationSuite).Succeeds (Environment.meeting standards block.text) step := by
  have judged := verdict_meeting baseRead block.ofText_text passes step
  exact ⟨_, ValidationSuite.check_of_verdict judged, rfl⟩

end Verdicts

/-! ## Standards that can be met -/

/-- All steps come to success under the standards, in some environment over some inventory. -/
def Standards.Attainable (standards : Standards) (role : ComputationRole) : Prop :=
  ∃ (inventory : CloudInventory) (environment : Environment), ∀ step,
    (⟨role, standards, inventory.gateways []⟩ : ValidationSuite).Succeeds environment step

namespace ValidationSuite

variable {suite : ValidationSuite} {environment : Environment} {base : AddressBlock}

theorem Succeeds.offers (succeeds : suite.Succeeds environment .vpcCidr)
    (baseRead : AddressBlock.ofText (suite.standards.baseCidr suite.role) = .ok base) :
    base.Offers := by
  obtain ⟨finding, checked, success⟩ := succeeds
  obtain rfl := Except.ok.inj checked
  cases present : environment.network.vpc with
  | none =>
      have missing : checkVpcCidr suite.standards suite.role environment =
          .failed [.vpcMissing] [] := by
        simp only [checkVpcCidr, present]
      rw [missing] at success
      cases success
  | some vpc =>
      obtain ⟨block, -, passes⟩ := (code_checkVpcCidr_eq_success_iff present baseRead).mp success
      exact passes.offers

theorem run_of_succeeds (succeeds : ∀ step, suite.Succeeds environment step)
    (skipped : List ValidationStep) : suite.run environment skipped = .ok [] := by
  choose finding checked success using succeeds
  rw [run_of_answers checked]
  refine congrArg _ (List.filter_eq_nil_iff.mpr ?_)
  intro found member
  obtain ⟨step, -, rfl⟩ := List.mem_map.mp member
  simp [Finding.isSuccess, success]

end ValidationSuite

theorem Standards.attainable_iff_offers {standards : Standards} {role : ComputationRole}
    {base : AddressBlock} (baseRead : AddressBlock.ofText (standards.baseCidr role) = .ok base) :
    standards.Attainable role ↔ base.Offers := by
  constructor
  · rintro ⟨inventory, environment, succeeds⟩
    have first := succeeds .vpcCidr
    exact first.offers baseRead
  · intro offers
    obtain ⟨block, passes⟩ := offers.exists_letThrough
    exact ⟨.meeting standards block.text, .meeting standards block.text,
      succeeds_meeting baseRead passes⟩

/-- Standards that are accepted can be met if the base block lets some network through, which can be
told from the base block, and then by an inventory from which the environment is loaded without
duplicates. -/
theorem standards_attainable (standards : Standards) (role : ComputationRole)
    (accepted : standards.validate = .ok ()) :
    ∃ base, AddressBlock.ofText (standards.baseCidr role) = .ok base ∧
      (standards.Attainable role ↔ ∃ block : AddressBlock, block.LetThrough base) ∧
      (standards.Attainable role ↔ base.Offers) ∧
      (standards.Attainable role → ∃ (inventory : CloudInventory) (environment : Environment),
        findDuplicates (inventory.gateways []) environment.id = .ok [] ∧
        loadEnvironment (inventory.gateways []) environment.id environment.region =
          .ok environment ∧
        let suite : ValidationSuite := ⟨role, standards, inventory.gateways []⟩
        (∀ step, suite.Succeeds environment step) ∧ suite.run environment [] = .ok []) := by
  obtain ⟨base, baseRead⟩ := Standards.exists_base accepted role
  have offers := Standards.attainable_iff_offers baseRead
  refine ⟨base, baseRead, offers.trans AddressBlock.exists_letThrough_iff.symm, offers, ?_⟩
  intro attainable
  obtain ⟨block, passes⟩ := (offers.mp attainable).exists_letThrough
  have succeeds := succeeds_meeting baseRead passes
  refine ⟨.meeting standards block.text, .meeting standards block.text, ?_, ?_, succeeds,
    ValidationSuite.run_of_succeeds succeeds []⟩
  · rw [CloudInventory.findDuplicates_faultless]
    exact congrArg _ (CloudInventory.duplicatesOf_eq_nil_iff.mpr (unambiguous_meeting _ _))
  · exact (CloudInventory.loadEnvironment_faultless _).trans
      (congrArg _ (environmentOf_meeting _ _))

theorem standards_attainable_of_mixed :
    let standards := { Standards.default with publisherVpcCidr := "172.0.0.7/8" }
    standards.validate = .ok () ∧ standards.Attainable .publisher := by
  intro standards
  have accepted : standards.validate = .ok () := by decide +kernel
  obtain ⟨base, baseRead, _, offers, _⟩ := standards_attainable standards .publisher accepted
  obtain rfl : ⟨addressOfBytes 172 0 0 7, 8, by decide, by decide⟩ = base :=
    Except.ok.inj ((by decide +kernel : AddressBlock.ofText "172.0.0.7/8" = .ok _).symm.trans
      baseRead)
  exact ⟨accepted, offers.mpr (by decide +kernel)⟩

/-- A base block in which there is no private network is accepted as well. -/
theorem standards_not_attainable_of_public :
    let standards := { Standards.default with publisherVpcCidr := "8.8.0.0/16" }
    standards.validate = .ok () ∧ ¬ standards.Attainable .publisher := by
  intro standards
  refine ⟨by decide +kernel, ?_⟩
  have baseRead : AddressBlock.ofText (standards.baseCidr .publisher) =
      .ok ⟨addressOfBytes 8 8 0 0, 16, by decide, by decide⟩ := by
    decide +kernel
  rw [Standards.attainable_iff_offers baseRead]
  decide +kernel

end PrivateComputation
