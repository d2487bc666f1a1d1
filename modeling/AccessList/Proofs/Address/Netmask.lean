import AccessList.Proofs.Address.DottedForm
import AccessList.Proofs.Lookup.Containment

/-! Netmasks as prefix lengths. A netmask is kept as the number of its set bits, and so a rule that is written
with it matches the block of this length. These are the addresses that the mask selects where the mask is
contiguous, and not otherwise. -/
namespace AccessList

namespace Address

variable {w n : Nat} {a b m : BitVec w}

/-- The bits of a contiguous mask are all set from the lowest set one on. -/
def IsContiguous (m : BitVec w) : Prop :=
  ∀ i j, i ≤ j → j < w → m.getLsbD i = true → m.getLsbD j = true

/-- The addresses that a mask does not tell from an address. -/
def selected (m a : BitVec w) : Set (BitVec w) := {b | b &&& m = a &&& m}

theorem block_eq_selected (n : Nat) (a : BitVec w) : block n a = selected (mask w n) a := by
  ext b
  exact network_eq_network_iff.symm

/-- To change one bit of an address is to leave what the mask selects, if the mask has the bit. -/
theorem flip_mem_selected {i : Nat} (inside : i < w) :
    a ^^^ BitVec.twoPow w i ∈ selected m a ↔ m.getLsbD i = false := by
  constructor
  · intro member
    have bit := congrArg (BitVec.getLsbD · i) (show _ = _ from member)
    simp only [BitVec.getLsbD_and, BitVec.getLsbD_xor, BitVec.getLsbD_twoPow, inside, decide_true,
      Bool.true_and, Bool.bne_true] at bit
    revert bit
    cases a.getLsbD i <;> cases m.getLsbD i <;> simp
  · intro clear
    apply BitVec.eq_of_getLsbD_eq
    intro j _
    by_cases same : i = j
    · subst same
      simp [clear]
    · simp [BitVec.getLsbD_twoPow, same]

/-- Two masks select the same addresses only if they are one mask. -/
theorem selected_eq_iff {k : BitVec w} : selected m a = selected k a ↔ m = k := by
  constructor
  · intro same
    apply BitVec.eq_of_getLsbD_eq
    intro i inside
    have clear : m.getLsbD i = false ↔ k.getLsbD i = false := by
      rw [← flip_mem_selected (a := a) inside, same, flip_mem_selected inside]
    cases bit : m.getLsbD i <;> cases bit' : k.getLsbD i <;> simp_all
  · rintro rfl
    rfl

theorem maskLength_mask (bound : n ≤ w) : maskLength (mask w n) = n := by
  have split : w = (w - n) + n := by omega
  have low : (List.range (w - n)).countP (mask w n).getLsbD = 0 := by
    apply List.countP_eq_zero.mpr
    intro i member
    have := List.mem_range.mp member
    simp [getLsbD_mask]
    omega
  have high : (List.range n).countP ((mask w n).getLsbD ∘ (w - n + ·)) = n := by
    have all : ∀ i ∈ List.range n, ((mask w n).getLsbD ∘ (w - n + ·)) i = true := by
      intro i member
      have := List.mem_range.mp member
      simp [getLsbD_mask]
      omega
    rw [List.countP_eq_length.mpr all, List.length_range]
  have parts : List.range w = List.range (w - n) ++ (List.range n).map (w - n + ·) := by
    rw [← List.range_add, ← split]
  rw [maskLength, parts, List.countP_append, List.countP_map, low, high, Nat.zero_add]

theorem isContiguous_mask (n : Nat) : IsContiguous (mask w n) := by
  intro i j order inside set
  rw [getLsbD_mask] at set ⊢
  simp at set ⊢
  omega

theorem isContiguous_iff : IsContiguous m ↔ m = mask w (maskLength m) := by
  constructor
  · intro contiguous
    -- The lowest set bit decides how long the mask is.
    have shape : m = mask w (w - m.ctz.toNat) := by
      apply BitVec.eq_of_getLsbD_eq
      intro i inside
      rw [getLsbD_mask]
      by_cases below : i < m.ctz.toNat
      · have outside : ¬ w - (w - m.ctz.toNat) ≤ i := by omega
        simp [BitVec.getLsbD_false_of_lt_ctz below, outside]
      · have lowest : m.ctz < (w : BitVec w) := by
          rw [BitVec.lt_def]
          simp
          omega
        have set := BitVec.getLsbD_true_ctz_of_ne_zero (BitVec.ctz_lt_iff_ne_zero.mp lowest)
        have among : w - (w - m.ctz.toNat) ≤ i := by omega
        simp [contiguous _ i (Nat.le_of_not_lt below) inside set, inside, among]
    rw [shape, maskLength_mask (Nat.sub_le _ _)]
  · intro shape
    rw [shape]
    exact isContiguous_mask _

theorem maskLength_le (m : BitVec w) : maskLength m ≤ w := by
  have bound := List.countP_le_length (p := m.getLsbD) (l := List.range w)
  rwa [List.length_range] at bound

end Address

namespace Lookup

open Address

variable {a m x : String} {address mask host : Address .v4} {length : Nat}

theorem asks_host (read : Family.v4.read? x = some host) : Asks .v4 s!"{x}/32" (Family.v4.hosts {host}) := by
  have text (length : String) (whole : length = "32") : s!"{x}/32" = s!"{x}/{length}" := by
    rw [whole, String.append_assoc]
    rfl
  rw [text _ rfl, ← block_width]
  exact .network read ⟨[3, 2], by decide⟩ (Nat.le_refl 32) (Nat.one_dvd _)

theorem isInSegment_host (read : Family.v4.read? a = some address) (bound : length ≤ 32)
    (readHost : Family.v4.read? x = some host) :
    ∃ b, isInSegment .v4 s!"{x}/32" s!"{a}/{length}" = .ok b ∧
      isWithin s!"{a}/{length}" s!"{x}/32" .v4 = .ok b ∧ (b = true ↔ host ∈ block length address) := by
  have decimal : Numeral.IsDecimal (toString length) length := isDecimal_length (f := .v4) bound
  have asks := asks_host readHost
  obtain ⟨b, answer, exact⟩ := isInSegment_spelled asks read decimal bound
  obtain ⟨b', within, exact'⟩ := isWithin_iff_subset (.block read decimal bound) asks
  obtain rfl : b = b' := Bool.eq_iff_iff.mpr (exact.trans exact'.symm)
  refine ⟨b, answer, within, ?_⟩
  rw [exact, Family.hosts_subset_hosts, Set.singleton_subset_iff]

/-- A netmask is kept as a prefix length, the number of its set bits, and a host lies in the segment that is
written with it if and only if it shares that many first bits with the address. For all hosts this is what the
mask selects if and only if the mask is contiguous. -/
theorem netmask_selects_iff (read : Family.v4.read? a = some address)
    (netmask : Family.v4.read? m = some mask) :
    ∃ length : Nat, withNetmask? a m = some s!"{a}/{length}" ∧
      (∀ x host, Family.v4.read? x = some host →
        ∃ b, isInSegment .v4 s!"{x}/32" s!"{a}/{length}" = .ok b ∧
          isWithin s!"{a}/{length}" s!"{x}/32" .v4 = .ok b ∧ (b = true ↔ host ∈ block length address)) ∧
      ((∀ x host, Family.v4.read? x = some host →
        (isInSegment .v4 s!"{x}/32" s!"{a}/{length}" = .ok true ↔ host &&& mask = address &&& mask)) ↔
        IsContiguous mask) := by
  have bound : maskLength mask ≤ 32 := maskLength_le mask
  refine ⟨maskLength mask, ?_, fun x host => isInSegment_host read bound, ?_⟩
  · simp [withNetmask?, netmaskLength?, netmask]
  · have lies (x : String) (host : Address .v4) (readHost : Family.v4.read? x = some host) :
        isInSegment .v4 s!"{x}/32" s!"{a}/{maskLength mask}" = .ok true ↔
          host ∈ block (maskLength mask) address := by
      obtain ⟨b, answer, _, exact⟩ := isInSegment_host read bound readHost
      rw [answer, ← exact, Except.ok.injEq]
    rw [isContiguous_iff, ← selected_eq_iff (a := address), ← block_eq_selected]
    constructor
    · intro same
      ext host
      have readHost : Family.v4.read? (Dotted.write host) = some host := Dotted.read?_write host
      exact (same _ host readHost).symm.trans (lies _ host readHost)
    · intro same x host readHost
      rw [lies x host readHost, ← same]
      rfl

/-- A mask of twenty bits with host bits in the address, and a host that both keep. -/
theorem netmask_selects_iff_twenty :
    let a := "10.1.37.0"
    let m := "255.255.240.0"
    let near := "10.1.47.255"
    let far := "10.1.48.0"
    Family.v4.read? a = some 0x0a012500#32 ∧ Family.v4.read? m = some 0xfffff000#32 ∧
      ∃ length : Nat, withNetmask? a m = some s!"{a}/{length}" ∧
        isInSegment .v4 s!"{near}/32" s!"{a}/{length}" = .ok true ∧
        isInSegment .v4 s!"{far}/32" s!"{a}/{length}" ≠ .ok true := by
  intro a m near far
  have read : Family.v4.read? a = some 0x0a012500#32 := by decide +kernel
  have netmask : Family.v4.read? m = some 0xfffff000#32 := by decide +kernel
  have inside : Family.v4.read? near = some 0x0a012fff#32 := by decide +kernel
  have outside : Family.v4.read? far = some 0x0a013000#32 := by decide +kernel
  have contiguous : IsContiguous 0xfffff000#32 := isContiguous_mask 20
  obtain ⟨length, converted, _, exact⟩ := netmask_selects_iff read netmask
  have selects := exact.mpr contiguous
  refine ⟨read, netmask, length, converted, (selects _ _ inside).mpr (by decide), fun answer => ?_⟩
  exact absurd ((selects _ _ outside).mp answer) (by decide)

/-- A mask with a hole: it selects a host outside the segment, and one inside it does not select. -/
theorem scattered_mask_misses :
    withNetmask? "10.0.5.0" "255.0.255.0" = some "10.0.5.0/16" ∧
      Family.v4.read? "10.0.5.0" = some 0x0a000500#32 ∧ Family.v4.read? "255.0.255.0" = some 0xff00ff00#32 ∧
      Family.v4.read? "10.9.5.1" = some 0x0a090501#32 ∧ Family.v4.read? "10.0.9.1" = some 0x0a000901#32 ∧
      (0x0a090501#32 &&& 0xff00ff00#32 = 0x0a000500#32 &&& 0xff00ff00#32 ∧
        isInSegment .v4 "10.9.5.1/32" "10.0.5.0/16" ≠ .ok true) ∧
      (0x0a000901#32 &&& 0xff00ff00#32 ≠ 0x0a000500#32 &&& 0xff00ff00#32 ∧
        isInSegment .v4 "10.0.9.1/32" "10.0.5.0/16" = .ok true) := by
  decide +kernel

end Lookup
end AccessList
