import AccessList.Address.Cidr
import Mathlib.Data.Set.Image
import Mathlib.Tactic.Ring

/-! Blocks and ranges as sets of addresses. The network part of an address is its quotient by the size
of the block, and this decides when one block lies in another block or in a range. -/
namespace AccessList

/-- An address of either family. -/
abbrev Host := (f : Family) × Address f

namespace Family

/-- Addresses of one family among those of both. -/
def hosts (f : Family) (s : Set (Address f)) : Set Host := Sigma.mk f '' s

theorem hosts_subset_hosts {f : Family} {s t : Set (Address f)} : f.hosts s ⊆ f.hosts t ↔ s ⊆ t :=
  Set.image_subset_image_iff sigma_mk_injective

theorem hosts_subset_same {f g : Family} {s : Set (Address f)} {t : Set (Address g)}
    (nonempty : s.Nonempty) (subset : f.hosts s ⊆ g.hosts t) : f = g := by
  obtain ⟨a, member⟩ := nonempty
  obtain ⟨b, _, same⟩ := subset ⟨a, member, rfl⟩
  exact (congrArg Sigma.fst same).symm

end Family

namespace Address

variable {w : Nat} {a b : BitVec w} {length : Nat}

def blockSize (w length : Nat) : Nat := 2 ^ (w - length)

theorem blockSize_pos (w length : Nat) : 0 < blockSize w length := Nat.two_pow_pos _

/-- The addresses that share their first `length` bits with `a`. -/
def block (length : Nat) (a : BitVec w) : Set (BitVec w) :=
  {b | b.toNat / blockSize w length = a.toNat / blockSize w length}

/-- The addresses from one to another, of which there are none if the ends are in the wrong order. -/
def range (low high : BitVec w) : Set (BitVec w) :=
  {b | low.toNat ≤ b.toNat ∧ b.toNat ≤ high.toNat}

/-- An address that is the first one of its block. -/
def IsFirst (length : Nat) (a : BitVec w) : Prop := blockSize w length ∣ a.toNat

theorem mem_block_self : a ∈ block length a := rfl

theorem block_width : block w a = {a} := by
  ext b
  simp [block, blockSize, BitVec.toNat_inj]

theorem getLsbD_mask (i : Nat) : (mask w length).getLsbD i = (decide (i < w) && decide (w - length ≤ i)) := by
  rw [mask, BitVec.getLsbD_shiftLeft, BitVec.getLsbD_allOnes]
  by_cases inside : i < w
  · have shifted : i - (w - length) < w := by omega
    by_cases low : i < w - length
    · simp [low, Nat.not_le.mpr low]
    · simp [inside, shifted, low, Nat.not_lt.mp low]
  · simp [inside]

theorem network_eq_shift : network length a = (a >>> (w - length)) <<< (w - length) := by
  apply BitVec.eq_of_getLsbD_eq
  intro i inside
  rw [network, first, BitVec.getLsbD_and, getLsbD_mask, BitVec.getLsbD_shiftLeft,
    BitVec.getLsbD_ushiftRight]
  by_cases high : w - length ≤ i
  · have place : w - length + (i - (w - length)) = i := by omega
    simp [inside, high, place]
  · have low : i < w - length := by omega
    simp [high, low]

theorem toNat_network :
    (network length a).toNat = a.toNat / blockSize w length * blockSize w length := by
  rw [network_eq_shift, BitVec.toNat_shiftLeft, BitVec.toNat_ushiftRight, Nat.shiftLeft_eq,
    Nat.shiftRight_eq_div_pow]
  exact Nat.mod_eq_of_lt (Nat.lt_of_le_of_lt (Nat.div_mul_le_self _ _) a.isLt)

theorem not_last (m a : BitVec w) : ~~~last m a = first m (~~~a) := by
  rw [last, first, BitVec.not_or, BitVec.not_not]

theorem blockSize_dvd (w length : Nat) : blockSize w length ∣ 2 ^ w :=
  Nat.pow_dvd_pow 2 (Nat.sub_le w length)

theorem toNat_last : (last (mask w length) a).toNat =
    (network length a).toNat + (blockSize w length - 1) := by
  have mirrored : (~~~last (mask w length) a).toNat = (network length (~~~a)).toNat :=
    congrArg BitVec.toNat (not_last (mask w length) a)
  obtain ⟨blocks, split⟩ := blockSize_dvd w length
  have positive := blockSize_pos w length
  have bound := a.isLt
  have lastBound := (last (mask w length) a).isLt
  rw [toNat_network, BitVec.toNat_not, BitVec.toNat_not] at mirrored
  rw [toNat_network]
  rw [split] at mirrored bound lastBound
  generalize blockSize w length = size at *
  have decompose := Nat.div_add_mod a.toNat size
  have remainder := Nat.mod_lt a.toNat positive
  have quotient : a.toNat / size < blocks := Nat.div_lt_of_lt_mul bound
  obtain ⟨above, rfl⟩ := Nat.exists_eq_add_of_lt quotient
  generalize a.toNat / size = below at *
  have total : size * (below + above + 1) = size * below + size * above + size := by ring
  have complement : size * (below + above + 1) - 1 - a.toNat =
      (size - 1 - a.toNat % size) + size * above := by omega
  rw [complement, Nat.add_mul_div_left _ _ positive, Nat.div_eq_of_lt (by omega), Nat.zero_add,
    Nat.mul_comm above] at mirrored
  rw [Nat.mul_comm below]
  omega

theorem network_eq_network_iff : network length a = network length b ↔
    a.toNat / blockSize w length = b.toNat / blockSize w length := by
  rw [← BitVec.toNat_inj, toNat_network, toNat_network,
    Nat.mul_left_inj (blockSize_pos w length).ne']

theorem network_eq_self_iff : network length a = a ↔ IsFirst length a := by
  rw [← BitVec.toNat_inj, toNat_network, IsFirst, Nat.dvd_iff_div_mul_eq]

theorem network_mem_block : network length a ∈ block length a := by
  have positive := blockSize_pos w length
  simp [block, toNat_network, Nat.mul_div_cancel _ positive]

theorem last_mem_block : last (mask w length) a ∈ block length a := by
  have positive := blockSize_pos w length
  have short : (blockSize w length - 1) / blockSize w length = 0 := Nat.div_eq_of_lt (by omega)
  simp only [block, Set.mem_ofPred_eq, toNat_last, toNat_network]
  rw [Nat.mul_comm, Nat.mul_add_div positive, short, Nat.add_zero]

/-- A block has no gaps, and these are its ends. -/
theorem mem_block_iff : b ∈ block length a ↔
    (network length a).toNat ≤ b.toNat ∧ b.toNat ≤ (last (mask w length) a).toNat := by
  have positive := blockSize_pos w length
  have decompose := Nat.div_add_mod b.toNat (blockSize w length)
  have remainder := Nat.mod_lt b.toNat positive
  rw [toNat_last, toNat_network]
  constructor
  · intro member
    rw [← show _ = _ from member]
    rw [Nat.mul_comm] at decompose
    omega
  · rintro ⟨lower, upper⟩
    apply Nat.div_eq_of_lt_le lower
    rw [Nat.add_mul]
    omega

theorem blockSize_eq_mul {shorter longer : Nat} (order : shorter ≤ longer) (bound : longer ≤ w) :
    blockSize w shorter = blockSize w longer * 2 ^ (longer - shorter) := by
  rw [blockSize, blockSize, ← Nat.pow_add]
  congr 1
  omega

theorem block_subset_block {inner outer : Nat} (innerBound : inner ≤ w) (outerBound : outer ≤ w) :
    block inner a ⊆ block outer b ↔ outer ≤ inner ∧ network outer a = network outer b := by
  constructor
  · intro subset
    have same : network outer a = network outer b := network_eq_network_iff.mpr (subset mem_block_self)
    refine ⟨?_, same⟩
    -- Were the inner block the larger one, its ends would lie in two blocks of the outer size.
    by_contra larger
    have lower := (mem_block_iff.mp (subset network_mem_block)).1
    have upper := (mem_block_iff.mp (subset last_mem_block)).2
    rw [toNat_last, toNat_last] at upper
    have positive := blockSize_pos w outer
    have double : blockSize w outer * 2 ≤ blockSize w inner := by
      rw [blockSize_eq_mul (Nat.le_of_not_le larger) outerBound]
      exact Nat.mul_le_mul_left _ (Nat.le_self_pow (by omega) 2)
    omega
  · rintro ⟨order, same⟩ c member
    have coarse : c.toNat / blockSize w outer = a.toNat / blockSize w outer := by
      rw [blockSize_eq_mul order innerBound, ← Nat.div_div_eq_div_mul, ← Nat.div_div_eq_div_mul]
      rw [show _ = _ from member]
    exact coarse.trans (network_eq_network_iff.mp same)

theorem block_subset_range {low high : BitVec w} : block length a ⊆ range low high ↔
    low ≤ network length a ∧ last (mask w length) a ≤ high := by
  constructor
  · intro subset
    exact ⟨(subset network_mem_block).1, (subset last_mem_block).2⟩
  · rintro ⟨lower, upper⟩ c member
    obtain ⟨above, below⟩ := mem_block_iff.mp member
    exact ⟨Nat.le_trans lower above, Nat.le_trans below upper⟩

end Address
end AccessList
