import PrivateComputation.Proofs.Cloud.AddressBlock
import PrivateComputation.Proofs.Validation.Questions

/-!
Which networks the first step of a validation lets through. It looks at the first address of a
block, for privacy, and at its written and last addresses, for containment. That decides what is
asked of all its addresses for blocks written with their first address over a private base block,
and it is said for all others in which way it may not.
-/

namespace PrivateComputation

namespace AddressBlock

/-- What is asked of the block of a network: each of its addresses is private and in the base
block. -/
def Conforms (block base : AddressBlock) : Prop :=
  ∀ address ∈ block, (∃ range ∈ privateBlocks, address ∈ range) ∧ address ∈ base

/-- What is found out about it: it starts in a private block, and what it has from its written
address on, the base block has from its own written address on. -/
structure LetThrough (block base : AddressBlock) : Prop where
  starts : ∃ range ∈ privateBlocks, block.network ∈ range
  within : ∀ address ∈ block, block.address ≤ address → address ∈ base ∧ base.address ≤ address

/-- A block that is no larger than the base block and the private block in which it starts. -/
structure Bounded (block base : AddressBlock) : Prop where
  base : base.length ≤ block.length
  range : ∀ range ∈ privateBlocks, block.network ∈ range → range.length ≤ block.length

/-- A block that is written with its first address. -/
def IsCanonical (block : AddressBlock) : Prop := block.address = block.network

instance (block : AddressBlock) : Decidable block.IsCanonical :=
  inferInstanceAs (Decidable (_ = _))

variable {block base : AddressBlock}

theorem letThrough_iff :
    (isPrivateAddress block.network && block.isWithin base) = true ↔ block.LetThrough base := by
  rw [Bool.and_eq_true, isPrivateAddress_iff, isWithin_iff]
  exact ⟨fun ⟨starts, within⟩ => ⟨starts, within⟩, fun ⟨starts, within⟩ => ⟨starts, within⟩⟩

theorem conforms_iff : block.Conforms base ↔
    (∀ address ∈ block, isPrivateAddress address = true) ∧ ∀ address ∈ block, address ∈ base := by
  simp only [Conforms, ← isPrivateAddress_iff]
  exact forall₂_and

theorem letThrough_and_bounded_iff :
    block.LetThrough base ∧ block.Bounded base ↔
      block.Conforms base ∧ base.address ≤ block.address := by
  rw [conforms_iff, forall_isPrivateAddress_iff, and_assoc, ← isWithin_and_length_le_iff,
    ← letThrough_iff, Bool.and_eq_true]
  constructor
  · rintro ⟨⟨starts, within⟩, bounded⟩
    exact ⟨⟨starts, bounded.range⟩, within, bounded.base⟩
  · rintro ⟨⟨starts, ranges⟩, within, prefixes⟩
    exact ⟨⟨starts, within⟩, prefixes, ranges⟩

theorem letThrough_iff_conforms (baseWritten : base.IsCanonical) (written : block.IsCanonical)
    (basePrivate : ∀ address ∈ base, isPrivateAddress address = true) :
    block.LetThrough base ↔ block.Conforms base := by
  constructor
  · intro passes
    have within : ∀ address ∈ block, address ∈ base := by
      intro address member
      have above : block.address ≤ address := written ▸ (mem_iff_range.mp member).1
      exact (passes.within address member above).1
    exact conforms_iff.mpr
      ⟨fun address member => basePrivate address (within address member), within⟩
  · intro conforms
    refine (letThrough_and_bounded_iff.mpr ⟨conforms, ?_⟩).1
    have start := (conforms _ block.network_mem).2
    rw [baseWritten, written]
    exact (mem_iff_range.mp start).1

end AddressBlock

namespace Standards

theorem readBlock_eq_ok_iff {text : String} {block : AddressBlock} :
    readBlock text = .ok block ↔ AddressBlock.ofText text = .ok block := by
  rw [readBlock]
  cases AddressBlock.ofText text <;> simp [Except.mapError]

theorem exists_base {standards : Standards} (accepted : standards.validate = .ok ())
    (role : ComputationRole) :
    ∃ base, AddressBlock.ofText (standards.baseCidr role) = .ok base := by
  simp only [← readBlock_eq_ok_iff]
  rw [validate] at accepted
  cases publisher : readBlock standards.publisherVpcCidr with
  | error fault =>
      rw [publisher] at accepted
      cases accepted
  | ok publisherBase =>
      cases partner : readBlock standards.partnerVpcCidr with
      | error fault =>
          rw [publisher, partner] at accepted
          cases accepted
      | ok partnerBase =>
          cases role with
          | publisher => exact ⟨publisherBase, publisher⟩
          | partner => exact ⟨partnerBase, partner⟩

end Standards

section VpcCidr

variable {standards : Standards} {role : ComputationRole} {environment : Environment} {vpc : Vpc}
  {base : AddressBlock}

theorem checkVpcCidr_of_readable (present : environment.network.vpc = some vpc)
    (baseRead : AddressBlock.ofText (standards.baseCidr role) = .ok base) {block : AddressBlock}
    (read : AddressBlock.ofText vpc.cidr = .ok block) :
    checkVpcCidr standards role environment =
      if isPrivateAddress block.network && block.isWithin base then .passed
      else .failed [.vpcOutsideBase vpc.id vpc.cidr (standards.baseCidr role)]
        [.recreateVpc (standards.baseCidr role)] := by
  simp only [checkVpcCidr, present, baseRead, read]

theorem checkVpcCidr_of_unreadable (present : environment.network.vpc = some vpc)
    {fault : AddressFault} (unread : AddressBlock.ofText vpc.cidr = .error fault) :
    checkVpcCidr standards role environment =
      .failed [.vpcCidrUnreadable vpc.id vpc.cidr] [.recreateVpc (standards.baseCidr role)] := by
  simp only [checkVpcCidr, present, unread]

theorem code_checkVpcCidr_cases (present : environment.network.vpc = some vpc)
    (baseRead : AddressBlock.ofText (standards.baseCidr role) = .ok base) :
    (checkVpcCidr standards role environment).code = .success ∨
      (checkVpcCidr standards role environment).code = .error := by
  cases read : AddressBlock.ofText vpc.cidr with
  | error fault =>
      rw [checkVpcCidr_of_unreadable present read]
      exact .inr rfl
  | ok block =>
      rw [checkVpcCidr_of_readable present baseRead read]
      split
      · exact .inl rfl
      · exact .inr rfl

theorem code_checkVpcCidr_eq_success_iff (present : environment.network.vpc = some vpc)
    (baseRead : AddressBlock.ofText (standards.baseCidr role) = .ok base) :
    (checkVpcCidr standards role environment).code = .success ↔
      ∃ block, AddressBlock.ofText vpc.cidr = .ok block ∧ block.LetThrough base := by
  cases read : AddressBlock.ofText vpc.cidr with
  | error fault =>
      rw [checkVpcCidr_of_unreadable present read]
      simp [Verdict.code]
  | ok block =>
      rw [checkVpcCidr_of_readable present baseRead read]
      simp only [Except.ok.injEq, exists_eq_left', ← AddressBlock.letThrough_iff]
      split
      next passes => exact iff_of_true rfl passes
      next fails => exact iff_of_false (by simp [Verdict.code]) fails

end VpcCidr

/-- A network passes if its block is let through. What is let through and bounded conforms and is
not written before the base block, and the other way round. -/
theorem network_let_through (suite : ValidationSuite)
    (accepted : suite.standards.validate = .ok ()) (environment : Environment) (vpc : Vpc)
    (present : environment.network.vpc = some vpc) :
    ∃ base finding,
      AddressBlock.ofText (suite.standards.baseCidr suite.role) = .ok base ∧
      suite.check environment .vpcCidr = .ok finding ∧
      (finding.code = .success ∨ finding.code = .error) ∧
      (finding.code = .success ↔
        ∃ block, AddressBlock.ofText vpc.cidr = .ok block ∧ block.LetThrough base) ∧
      ∀ block, AddressBlock.ofText vpc.cidr = .ok block →
        (finding.code = .success ∧ block.Bounded base ↔
          block.Conforms base ∧ base.address ≤ block.address) ∧
        (base.IsCanonical → block.IsCanonical →
          (∀ address ∈ base, ∃ range ∈ AddressBlock.privateBlocks, address ∈ range) →
            (finding.code = .success ↔ block.Conforms base)) := by
  obtain ⟨base, baseRead⟩ := Standards.exists_base accepted suite.role
  have judged := code_checkVpcCidr_eq_success_iff present baseRead
  refine ⟨base, _, baseRead, ValidationSuite.check_of_verdict rfl,
    code_checkVpcCidr_cases present baseRead, judged, ?_⟩
  intro block read
  have passes : (checkVpcCidr suite.standards suite.role environment).code = .success ↔
      block.LetThrough base := by
    simp only [judged, read, Except.ok.injEq, exists_eq_left']
  refine ⟨?_, ?_⟩
  · exact (and_congr_left' passes).trans AddressBlock.letThrough_and_bounded_iff
  · intro baseWritten written basePrivate
    exact passes.trans (AddressBlock.letThrough_iff_conforms baseWritten written
      (fun address member => AddressBlock.isPrivateAddress_iff.mpr (basePrivate address member)))

def Environment.ofVpcCidr (cidr : String) : Environment :=
  { Environment.empty "environment" "us-west-2" with
    network := { EnvironmentNetwork.empty with vpc := some ⟨"vpc-1", cidr, ∅⟩ } }

theorem network_let_through_of_inner :
    let suite := ValidationSuite.standard .partner (CloudInventory.empty.gateways [])
    let environment := Environment.ofVpcCidr "10.1.7.5/22"
    suite.standards.validate = .ok () ∧ environment.network.vpc = some ⟨"vpc-1", "10.1.7.5/22", ∅⟩ ∧
      ∃ block base finding, AddressBlock.ofText "10.1.7.5/22" = .ok block ∧
        AddressBlock.ofText "10.1.0.0/16" = .ok base ∧ ¬ block.IsCanonical ∧
        suite.check environment .vpcCidr = .ok finding ∧ finding.code = .success ∧
        block.Conforms base := by
  intro suite environment
  have accepted : suite.standards.validate = .ok () := by decide +kernel
  obtain ⟨base, finding, baseRead, checked, _, passes, judged⟩ :=
    network_let_through suite accepted environment _ rfl
  let block : AddressBlock := ⟨addressOfBytes 10 1 7 5, 22, by decide, by decide⟩
  have read : AddressBlock.ofText "10.1.7.5/22" = .ok block := by decide +kernel
  obtain rfl : ⟨addressOfBytes 10 1 0 0, 16, by decide, by decide⟩ = base :=
    Except.ok.inj ((by decide +kernel : AddressBlock.ofText "10.1.0.0/16" = .ok _).symm.trans
      baseRead)
  have success : finding.code = .success := by
    refine passes.mpr ⟨block, read, AddressBlock.letThrough_iff.mp ?_⟩
    decide +kernel
  have bounded : block.Bounded ⟨addressOfBytes 10 1 0 0, 16, by decide, by decide⟩ :=
    ⟨by decide, by decide +kernel⟩
  exact ⟨accepted, rfl, block, _, finding, read, baseRead, by decide +kernel, checked, success,
    ((judged block read).1.mp ⟨success, bounded⟩).1⟩

/-- A block twice as large as the base block, written with an address of the upper half, passes. Its
first address is not in the base block. -/
theorem network_let_through_beyond_base :
    let suite := ValidationSuite.standard .partner (CloudInventory.empty.gateways [])
    suite.standards.validate = .ok () ∧
      ∃ block base finding, AddressBlock.ofText "10.1.0.0/15" = .ok block ∧
        AddressBlock.ofText (suite.standards.baseCidr suite.role) = .ok base ∧
        suite.check (Environment.ofVpcCidr "10.1.0.0/15") .vpcCidr = .ok finding ∧
        finding.code = .success ∧ ¬ block.Conforms base := by
  intro suite
  let block : AddressBlock := ⟨addressOfBytes 10 1 0 0, 15, by decide, by decide⟩
  let base : AddressBlock := ⟨addressOfBytes 10 1 0 0, 16, by decide, by decide⟩
  have outside : addressOfBytes 10 0 0 0 ∈ block ∧ addressOfBytes 10 0 0 0 ∉ base := by decide
  refine ⟨by decide +kernel, block, base, _, by decide +kernel, by decide +kernel, rfl,
    by decide +kernel, ?_⟩
  intro conforms
  exact outside.2 (conforms _ outside.1).2

end PrivateComputation
