import AccessList.Address.Cidr
import AccessList.Proofs.Text.Fields

/-! The dotted quad of an address of version 4 spells that address, so that every address has a spelling. -/
namespace AccessList.Address.Dotted

open Text

theorem octet?_toString : ∀ n < 256, octet? (toString n) = some n ∧ '.' ∉ (toString n).toList := by
  decide +kernel

theorem octets_small (a : Address .v4) : ∀ o ∈ octets a, o < 256 := by
  intro o member
  obtain ⟨s, _, rfl⟩ := List.mem_map.mp member
  exact Nat.mod_lt _ (by decide)

theorem shift_or_octet (a : Address .v4) (s : Nat) :
    (a >>> (s + 8)) <<< 8 ||| BitVec.ofNat 32 ((a >>> s).toNat % 256) = a >>> s := by
  apply BitVec.eq_of_getLsbD_eq
  intro i inside
  have low : (BitVec.ofNat 32 ((a >>> s).toNat % 2 ^ 8)).getLsbD i =
      (decide (i < 8) && (a >>> s).getLsbD i) := by
    rw [BitVec.getLsbD_ofNat, Nat.testBit_mod_two_pow, BitVec.testBit_toNat]
    simp [inside]
  rw [BitVec.getLsbD_or, BitVec.getLsbD_shiftLeft, show (256 : Nat) = 2 ^ 8 from rfl, low]
  by_cases tail : i < 8
  · simp [tail]
  · have place : s + 8 + (i - 8) = s + i := by omega
    simp [tail, inside, BitVec.getLsbD_ushiftRight, place]

theorem ofOctets_octets (a : Address .v4) : ofOctets (octets a) = a := by
  have start : (0 : Address .v4) = a >>> 32 := (BitVec.ushiftRight_eq_zero (Nat.le_refl 32)).symm
  simp only [ofOctets, octets, List.map_cons, List.map_nil, List.foldl_cons, List.foldl_nil]
  rw [start, shift_or_octet a 24, shift_or_octet a 16, shift_or_octet a 8, shift_or_octet a 0,
    BitVec.ushiftRight_zero]

theorem fields_write (a : Address .v4) : fields '.' (write a) = (octets a).map toString := by
  apply fields_join rfl
  · intro part member
    obtain ⟨o, among, rfl⟩ := List.mem_map.mp member
    exact (octet?_toString o (octets_small a o among)).2
  · simp [octets]

theorem mapM_octets {os : List Nat} (small : ∀ o ∈ os, o < 256) :
    (os.map toString).mapM octet? = some os := by
  induction os with
  | nil => rfl
  | cons o os ih =>
    obtain ⟨here, later⟩ := List.forall_mem_cons.mp small
    rw [List.map_cons, List.mapM_cons, (octet?_toString o here).1, ih later]
    rfl

theorem read?_write (a : Address .v4) : read? (write a) = some a := by
  rw [read?, fields_write, mapM_octets (octets_small a)]
  exact congrArg some (ofOctets_octets a)

end AccessList.Address.Dotted
