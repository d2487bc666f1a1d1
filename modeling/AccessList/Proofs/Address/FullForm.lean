import AccessList.Proofs.Address.Pieces

/-! The full form of an address of version 6. It spells the address, so that every address has a
spelling, and reading any spelling and writing it in full keeps the address. -/
namespace AccessList.Address.Hextets

open Text

theorem hexDigits_read (count n : Nat) : ∃ ds, (hexDigits count n).mapM hexValue? = some ds ∧
    ds.foldl (16 * · + ·) 0 = n % 16 ^ count := by
  induction count generalizing n with
  | zero => exact ⟨[], rfl, by simp [Nat.mod_one]⟩
  | succ count ih =>
    obtain ⟨ds, read, value⟩ := ih (n / 16)
    have digit := hexValue?_hexDigit (n % 16) (Nat.mod_lt n (by decide))
    refine ⟨ds ++ [n % 16], by simp [hexDigits, read, digit], ?_⟩
    rw [List.foldl_append, value, Nat.pow_succ', Nat.mod_mul]
    simp [Nat.add_comm]

theorem group?_hexDigits {g : Nat} (small : g < 0x10000) :
    group? (String.ofList (hexDigits 4 g)) = some g := by
  obtain ⟨ds, read, value⟩ := hexDigits_read 4 g
  have digits : (hexDigits 4 g).isEmpty = false := rfl
  simp [group?, length_hexDigits, read, value, digits, Nat.mod_eq_of_lt small]

theorem hexDigits_chars {c : Char} (count n : Nat) (member : c ∈ hexDigits count n) :
    (hexValue? c).isSome = true := by
  obtain ⟨ds, read, _⟩ := hexDigits_read count n
  obtain ⟨value, digit⟩ := exists_of_mapM read member
  simp [digit]

def written (g : Nat) : String := String.ofList (hexDigits 4 g)

theorem spellsGroups_written : SpellsGroups written where
  reads _ small := group?_hexDigits small
  digits g c member := hexDigits_chars 4 g (by simpa [written] using member)

theorem shift_or_group (a : Address .v6) (s : Nat) :
    (a >>> (s + 16)) <<< 16 ||| BitVec.ofNat 128 ((a >>> s).toNat % 0x10000) = a >>> s := by
  apply BitVec.eq_of_getLsbD_eq
  intro i inside
  have low : (BitVec.ofNat 128 ((a >>> s).toNat % 2 ^ 16)).getLsbD i =
      (decide (i < 16) && (a >>> s).getLsbD i) := by
    rw [BitVec.getLsbD_ofNat, Nat.testBit_mod_two_pow, BitVec.testBit_toNat]
    simp [inside]
  rw [BitVec.getLsbD_or, BitVec.getLsbD_shiftLeft, show (0x10000 : Nat) = 2 ^ 16 from rfl, low]
  by_cases tail : i < 16
  · simp [tail]
  · have place : s + 16 + (i - 16) = s + i := by omega
    simp [tail, inside, BitVec.getLsbD_ushiftRight, place]

theorem ofGroups_groups (a : Address .v6) : ofGroups (groups a) = a := by
  have start : (0 : Address .v6) = a >>> 128 := (BitVec.ushiftRight_eq_zero (Nat.le_refl 128)).symm
  simp only [ofGroups, groups, List.map_cons, List.map_nil, List.foldl_cons, List.foldl_nil]
  rw [start, shift_or_group a 112, shift_or_group a 96, shift_or_group a 80, shift_or_group a 64,
    shift_or_group a 48, shift_or_group a 32, shift_or_group a 16, shift_or_group a 0,
    BitVec.ushiftRight_zero]

theorem groups_small (a : Address .v6) : ∀ g ∈ groups a, g < 0x10000 := by
  intro g member
  obtain ⟨s, _, rfl⟩ := List.mem_map.mp member
  exact Nat.mod_lt _ (by decide)

theorem full_eq (a : Address .v6) : full a = String.intercalate ":" ((groups a).map written) := rfl

theorem not_mem_full {a : Address .v6} {c : Char} (digit : hexValue? c = none) (colon : c ≠ ':') :
    c ∉ (full a).toList := by
  rw [full_eq, ← List.append_nil ((groups a).map written), spellsGroups_written.mem_join digit colon]
  simp

theorem spelled?_full (a : Address .v6) : spelled? (full a) = some a := by
  have pieces := spellsGroups_written.pieces (groups_small a)
  rw [full_eq, spelled?_pieces pieces (spellsGroups_written.readAll (groups_small a)) rfl, ofGroups_groups]

theorem read?_full (a : Address .v6) : read? (full a) = some a := by
  have plain : has '.' (full a) = false := by
    simpa [has] using not_mem_full (a := a) (c := '.') (by decide) (by decide)
  simp [read?, spelled?_full, plain, Option.filter]

end AccessList.Address.Hextets

namespace AccessList.Address

theorem full?_of_read {a : String} {address : Address .v6} (read : Hextets.read? a = some address) :
    full? a = some (Hextets.full address) := congrArg (Option.map Hextets.full) read

theorem beforeSlash_full? {a p : String} {address : Address .v6} (read : Hextets.read? a = some address) :
    beforeSlash full? s!"{a}/{p}" = some s!"{Hextets.full address}/{p}" := by
  have split : Text.cut '/' s!"{a}/{p}" = some (a, p) :=
    Text.cut_join rfl (not_mem_of_spelling (f := .v6) read (by decide))
  simp [beforeSlash, split, full?_of_read read]

theorem slash_host (text : String) {p : String} (host : p = "128") : s!"{text}/128" = s!"{text}/{p}" := by
  rw [host, String.append_assoc]
  rfl

end AccessList.Address
