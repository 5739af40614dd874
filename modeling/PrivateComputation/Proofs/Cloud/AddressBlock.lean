import Mathlib.Data.Nat.Bitwise
import PrivateComputation.Cloud.AddressBlock

/-!
Address blocks as sets of addresses. Two blocks that share an address lie one inside the other, so
that comparisons of written and last addresses can be read as statements about all addresses.
-/

namespace PrivateComputation

namespace AddressBlock

/-- The addresses of a block are those that agree with the written one on the bits of the network
part. -/
instance : Membership Nat AddressBlock where
  mem block address :=
    ∀ bit, 32 - block.length ≤ bit → address.testBit bit = block.address.testBit bit

variable {block inner outer left right : AddressBlock} {address : Nat}

/-! ## A block as a range -/

theorem size_eq (block : AddressBlock) : block.size = 2 ^ (32 - block.length) := rfl

theorem size_pos (block : AddressBlock) : 0 < block.size := Nat.two_pow_pos _

theorem mem_iff_div : address ∈ block ↔ address / block.size = block.address / block.size := by
  rw [size_eq]
  constructor
  · intro agrees
    apply Nat.eq_of_testBit_eq
    intro bit
    rw [Nat.testBit_div_two_pow, Nat.testBit_div_two_pow]
    exact agrees _ (Nat.le_add_left _ _)
  · intro same bit inNetwork
    have shifted := congrArg (fun number => number.testBit (bit - (32 - block.length))) same
    simpa only [Nat.testBit_div_two_pow, Nat.sub_add_cancel inNetwork] using shifted

theorem contains_iff : block.contains address = true ↔ address ∈ block := by
  rw [contains, beq_iff_eq, mem_iff_div]

instance (address : Nat) (block : AddressBlock) : Decidable (address ∈ block) :=
  decidable_of_iff _ contains_iff

theorem mem_iff_range :
    address ∈ block ↔ block.network ≤ address ∧ address ≤ block.broadcast := by
  have positive := block.size_pos
  rw [mem_iff_div, Nat.div_eq_iff positive, broadcast, network]
  omega

theorem address_mem (block : AddressBlock) : block.address ∈ block := fun _ _ => rfl

theorem network_le_broadcast (block : AddressBlock) : block.network ≤ block.broadcast :=
  Nat.le_add_right _ _

theorem network_mem (block : AddressBlock) : block.network ∈ block :=
  mem_iff_range.mpr ⟨le_rfl, block.network_le_broadcast⟩

theorem broadcast_mem (block : AddressBlock) : block.broadcast ∈ block :=
  mem_iff_range.mpr ⟨block.network_le_broadcast, le_rfl⟩

/-! ## Blocks inside each other -/

theorem forall_mem_of_shared (prefixes : outer.length ≤ inner.length) (inInner : address ∈ inner)
    (inOuter : address ∈ outer) : ∀ other ∈ inner, other ∈ outer := by
  intro other member bit inNetwork
  have innerBit : 32 - inner.length ≤ bit := by omega
  calc other.testBit bit = inner.address.testBit bit := member bit innerBit
    _ = address.testBit bit := (inInner bit innerBit).symm
    _ = outer.address.testBit bit := inOuter bit inNetwork

theorem length_le_of_forall_mem (within : ∀ address ∈ inner, address ∈ outer) :
    outer.length ≤ inner.length := by
  have first := (mem_iff_range.mp (within _ inner.network_mem)).1
  have last := (mem_iff_range.mp (within _ inner.broadcast_mem)).2
  have sizes : inner.size ≤ outer.size := by
    have positive := outer.size_pos
    rw [broadcast, broadcast] at last
    omega
  rw [size_eq, size_eq, Nat.pow_le_pow_iff_right (by omega)] at sizes
  have := outer.length_le
  omega

theorem overlaps_iff :
    left.overlaps right = true ↔ ∃ address, address ∈ left ∧ address ∈ right := by
  simp only [overlaps, Bool.or_eq_true, contains_iff]
  constructor
  · rintro (((inRight | inRight) | inLeft) | inLeft)
    · exact ⟨left.address, left.address_mem, inRight⟩
    · exact ⟨left.broadcast, left.broadcast_mem, inRight⟩
    · exact ⟨right.address, inLeft, right.address_mem⟩
    · exact ⟨right.broadcast, inLeft, right.broadcast_mem⟩
  · rintro ⟨address, inLeft, inRight⟩
    rcases Nat.le_total right.length left.length with prefixes | prefixes
    · exact .inl (.inl (.inl (forall_mem_of_shared prefixes inLeft inRight _ left.address_mem)))
    · exact .inl (.inr (forall_mem_of_shared prefixes inRight inLeft _ right.address_mem))

theorem isWithin_iff : inner.isWithin outer = true ↔
    ∀ address ∈ inner, inner.address ≤ address → address ∈ outer ∧ outer.address ≤ address := by
  simp only [isWithin, Bool.and_eq_true, decide_eq_true_eq]
  constructor
  · rintro ⟨written, last⟩ address member above
    have start := (mem_iff_range.mp outer.address_mem).1
    have bound := (mem_iff_range.mp member).2
    exact ⟨mem_iff_range.mpr ⟨by omega, by omega⟩, by omega⟩
  · intro within
    have last := mem_iff_range.mp inner.address_mem
    exact ⟨(within _ inner.address_mem le_rfl).2,
      (mem_iff_range.mp (within _ inner.broadcast_mem last.2).1).2⟩

/-- The comparison of written addresses decides containment, except where the outer block is written
behind the inner one, or is the smaller of the two. -/
theorem isWithin_and_length_le_iff :
    inner.isWithin outer = true ∧ outer.length ≤ inner.length ↔
      (∀ address ∈ inner, address ∈ outer) ∧ outer.address ≤ inner.address := by
  rw [isWithin_iff]
  constructor
  · rintro ⟨within, prefixes⟩
    have written := within _ inner.address_mem le_rfl
    exact ⟨forall_mem_of_shared prefixes inner.address_mem written.1, written.2⟩
  · rintro ⟨within, written⟩
    exact ⟨fun address member above => ⟨within address member, written.trans above⟩,
      length_le_of_forall_mem within⟩

/-! ## Private addresses -/

def privateBlocks : List AddressBlock :=
  [⟨addressOfBytes 10 0 0 0, 8, by decide, by decide⟩,
    ⟨addressOfBytes 172 16 0 0, 12, by decide, by decide⟩,
    ⟨addressOfBytes 192 168 0 0, 16, by decide, by decide⟩]

theorem isPrivateAddress_iff :
    isPrivateAddress address = true ↔ ∃ range ∈ privateBlocks, address ∈ range := by
  simp only [privateBlocks, List.mem_cons, List.not_mem_nil, or_false, exists_eq_or_imp,
    exists_eq_left, mem_iff_div, isPrivateAddress, Bool.or_eq_true, beq_iff_eq, or_assoc]
  rfl

theorem exists_public_neighbour {range : AddressBlock} (member : range ∈ privateBlocks) :
    ∃ wider : AddressBlock, wider.length + 1 = range.length ∧ range.address ∈ wider ∧
      ∃ address ∈ wider, isPrivateAddress address = false := by
  simp only [privateBlocks, List.mem_cons, List.not_mem_nil, or_false] at member
  rcases member with rfl | rfl | rfl
  · exact ⟨⟨addressOfBytes 10 0 0 0, 7, by decide, by decide⟩, by decide, by decide,
      addressOfBytes 11 0 0 0, by decide, by decide⟩
  · exact ⟨⟨addressOfBytes 172 16 0 0, 11, by decide, by decide⟩, by decide, by decide,
      addressOfBytes 172 0 0 0, by decide, by decide⟩
  · exact ⟨⟨addressOfBytes 192 168 0 0, 15, by decide, by decide⟩, by decide, by decide,
      addressOfBytes 192 169 0 0, by decide, by decide⟩

theorem forall_isPrivateAddress_iff :
    (∀ address ∈ block, isPrivateAddress address = true) ↔
      isPrivateAddress block.network = true ∧
        ∀ range ∈ privateBlocks, block.network ∈ range → range.length ≤ block.length := by
  constructor
  · intro allPrivate
    refine ⟨allPrivate _ block.network_mem, ?_⟩
    intro range member starts
    by_contra larger
    obtain ⟨wider, shorter, written, address, inWider, isPublic⟩ := exists_public_neighbour member
    have inBlock : ∀ other ∈ range, other ∈ block :=
      forall_mem_of_shared (by omega) starts block.network_mem
    have inBlock := forall_mem_of_shared (by omega) written (inBlock _ range.address_mem)
    rw [allPrivate _ (inBlock _ inWider)] at isPublic
    exact absurd isPublic (by decide)
  · rintro ⟨starts, bounded⟩ address member
    obtain ⟨range, inList, inRange⟩ := isPrivateAddress_iff.mp starts
    have within := forall_mem_of_shared (bounded range inList inRange) block.network_mem inRange
    exact isPrivateAddress_iff.mpr ⟨range, inList, within _ member⟩

end AddressBlock

end PrivateComputation
