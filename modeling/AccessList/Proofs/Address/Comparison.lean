import AccessList.Proofs.Address.Bounds
import Mathlib.Data.Nat.Digits.Defs

/-! The order of addresses of version 6. Written in full they are as many digits as any other, so that the order
of their texts, character by character, is the order of the addresses. -/
namespace AccessList

namespace Text

variable {l k l' k' : List Char} {count n m : Nat}

theorem append_lt_append_iff (same : l.length = k.length) :
    l ++ l' < k ++ k' ↔ l < k ∨ l = k ∧ l' < k' := by
  induction l generalizing k with
  | nil =>
    obtain rfl := List.length_eq_zero_iff.mp same.symm
    simp
  | cons c l ih =>
    obtain ⟨d, k, rfl⟩ := List.exists_cons_of_length_eq_add_one same.symm
    have shorter : l.length = k.length := Nat.succ.inj same
    rw [List.cons_append, List.cons_append, List.cons_lt_cons_iff, List.cons_lt_cons_iff, ih shorter,
      List.cons.injEq]
    tauto

theorem hexDigit_lt_iff : ∀ n < 16, ∀ m < 16, hexDigit n < hexDigit m ↔ n < m := by decide

theorem hexDigits_inj (small : n < 16 ^ count) (small' : m < 16 ^ count) :
    hexDigits count n = hexDigits count m ↔ n = m := by
  constructor
  · intro same
    obtain ⟨ds, read, value⟩ := Address.Hextets.hexDigits_read count n
    obtain ⟨ds', read', value'⟩ := Address.Hextets.hexDigits_read count m
    obtain rfl : ds = ds' := Option.some.inj (read.symm.trans (same ▸ read'))
    rw [Nat.mod_eq_of_lt small] at value
    rw [Nat.mod_eq_of_lt small'] at value'
    exact value.symm.trans value'
  · rintro rfl
    rfl

theorem hexDigits_lt_iff (small : n < 16 ^ count) (small' : m < 16 ^ count) :
    hexDigits count n < hexDigits count m ↔ n < m := by
  induction count generalizing n m with
  | zero =>
    obtain rfl : n = 0 := by simpa using small
    obtain rfl : m = 0 := by simpa using small'
    simp
  | succ count ih =>
    have high : n / 16 < 16 ^ count := Nat.div_lt_of_lt_mul (by rwa [← Nat.pow_succ'])
    have high' : m / 16 < 16 ^ count := Nat.div_lt_of_lt_mul (by rwa [← Nat.pow_succ'])
    have low := hexDigit_lt_iff (n % 16) (Nat.mod_lt n (by decide)) (m % 16) (Nat.mod_lt m (by decide))
    have alone : [hexDigit (n % 16)] < [hexDigit (m % 16)] ↔ n % 16 < m % 16 := by
      simp [List.cons_lt_cons_iff, low]
    rw [hexDigits, hexDigits, append_lt_append_iff (by rw [length_hexDigits, length_hexDigits]), ih high high',
      hexDigits_inj high high', alone]
    omega

end Text

namespace Numeral

variable {base d e v u size : Nat} {ds es : List Nat}

theorem ofDigits_eq (base : Nat) (ds : List Nat) : ofDigits base ds = Nat.ofDigits base ds.reverse := by
  rw [Nat.ofDigits_eq_foldr, List.foldr_reverse, ofDigits]
  simp only [Nat.cast_id, Nat.add_comm]

/-- The first digit settles the order, unless both numbers have the same one. -/
theorem add_place_lt_iff (small : v < size) (small' : u < size) :
    v + size * d < u + size * e ↔ d < e ∨ d = e ∧ v < u := by
  rcases Nat.lt_trichotomy d e with below | rfl | above
  · have places : size * (d + 1) ≤ size * e := Nat.mul_le_mul_left size below
    rw [Nat.mul_succ] at places
    omega
  · omega
  · have places : size * (e + 1) ≤ size * d := Nat.mul_le_mul_left size above
    rw [Nat.mul_succ] at places
    omega

theorem ofDigits_lt_iff (proper : 1 < base) (same : ds.length = es.length) (small : ∀ d ∈ ds, d < base)
    (small' : ∀ e ∈ es, e < base) : ofDigits base ds < ofDigits base es ↔ ds < es := by
  rw [ofDigits_eq, ofDigits_eq]
  induction ds generalizing es with
  | nil =>
    obtain rfl := List.length_eq_zero_iff.mp same.symm
    simp
  | cons d ds ih =>
    obtain ⟨e, es, rfl⟩ := List.exists_cons_of_length_eq_add_one same.symm
    obtain ⟨_, later⟩ := List.forall_mem_cons.mp small
    obtain ⟨_, later'⟩ := List.forall_mem_cons.mp small'
    have shorter : ds.length = es.length := Nat.succ.inj same
    have bound := Nat.ofDigits_lt_base_pow_length (l := ds.reverse) proper (by simpa using later)
    have bound' := Nat.ofDigits_lt_base_pow_length (l := es.reverse) proper (by simpa using later')
    rw [List.length_reverse] at bound bound'
    rw [Nat.ofDigits_reverse_cons, Nat.ofDigits_reverse_cons, shorter, add_place_lt_iff (shorter ▸ bound) bound',
      ih shorter later later', List.cons_lt_cons_iff]

end Numeral

namespace Address.Hextets

open Text

theorem shift_add_group (n s : Nat) : 0x10000 * (n / 2 ^ (s + 16)) + n / 2 ^ s % 0x10000 = n / 2 ^ s := by
  rw [Nat.pow_add, ← Nat.div_div_eq_div_mul]
  exact Nat.div_add_mod _ _

theorem ofDigits_groups (a : Address .v6) : Numeral.ofDigits 0x10000 (groups a) = a.toNat := by
  have top : a.toNat / 2 ^ 112 < 0x10000 := Nat.div_lt_of_lt_mul a.isLt
  simp only [groups, List.map_cons, List.map_nil, Numeral.ofDigits, List.foldl_cons, List.foldl_nil,
    BitVec.toNat_ushiftRight, Nat.shiftRight_eq_div_pow]
  rw [Nat.mul_zero, Nat.zero_add, Nat.mod_eq_of_lt top, shift_add_group _ 96, shift_add_group _ 80,
    shift_add_group _ 64, shift_add_group _ 48, shift_add_group _ 32, shift_add_group _ 16, shift_add_group _ 0,
    Nat.pow_zero, Nat.div_one]

/-- Groups of four digits are in one order before and after they are joined. -/
theorem join_lt_iff {gs hs : List Nat} (same : gs.length = hs.length) (small : ∀ g ∈ gs, g < 0x10000)
    (small' : ∀ h ∈ hs, h < 0x10000) :
    [':'].intercalate (gs.map (hexDigits 4)) < [':'].intercalate (hs.map (hexDigits 4)) ↔ gs < hs := by
  induction gs generalizing hs with
  | nil =>
    obtain rfl := List.length_eq_zero_iff.mp same.symm
    simp
  | cons g gs ih =>
    obtain ⟨h, hs, rfl⟩ := List.exists_cons_of_length_eq_add_one same.symm
    obtain ⟨here, later⟩ := List.forall_mem_cons.mp small
    obtain ⟨here', later'⟩ := List.forall_mem_cons.mp small'
    have shorter : gs.length = hs.length := Nat.succ.inj same
    have first : hexDigits 4 g < hexDigits 4 h ↔ g < h := hexDigits_lt_iff here here'
    have equal : hexDigits 4 g = hexDigits 4 h ↔ g = h := hexDigits_inj here here'
    have digits : (hexDigits 4 g).length = (hexDigits 4 h).length := by rw [length_hexDigits, length_hexDigits]
    have rest := ih shorter later later'
    cases gs with
    | nil =>
      obtain rfl := List.length_eq_zero_iff.mp shorter.symm
      simpa [List.cons_lt_cons_iff] using first
    | cons g' gs =>
      obtain ⟨h', hs, rfl⟩ := List.exists_cons_of_length_eq_add_one shorter.symm
      simp only [List.map_cons] at rest ⊢
      rw [List.intercalate_cons_cons, List.intercalate_cons_cons, List.append_assoc, List.append_assoc,
        append_lt_append_iff digits, append_lt_append_iff rfl, first, equal, rest,
        List.cons_lt_cons_iff (a := g)]
      simp

theorem length_groups (a : Address .v6) : (groups a).length = 8 := rfl

theorem toList_full (a : Address .v6) : (full a).toList = [':'].intercalate ((groups a).map (hexDigits 4)) := by
  rw [full, String.toList_intercalate, List.map_map]
  simp [Function.comp_def]

theorem full_lt_iff {a b : Address .v6} : full a < full b ↔ a.toNat < b.toNat := by
  have same : (groups a).length = (groups b).length := (length_groups a).trans (length_groups b).symm
  rw [String.lt_iff, toList_full, toList_full, join_lt_iff same (groups_small a) (groups_small b),
    ← Numeral.ofDigits_lt_iff (show 1 < 0x10000 by decide) same (groups_small a) (groups_small b),
    ofDigits_groups, ofDigits_groups]

end Address.Hextets

namespace Address

/-- There is no answer for the texts of which one has no full form. All others compare as their full forms do,
character by character, and these are in full already. -/
theorem compare_as_full (a b : String) :
    (compare? .v6 a b = none ↔ full? a = none ∨ full? b = none) ∧
    ∀ address other, Family.v6.read? a = some address → Family.v6.read? b = some other →
      ∃ x y, full? a = some x ∧ full? b = some y ∧ full? x = some x ∧ full? y = some y ∧
        (compare? .v6 a b = some .lt ↔ x < y) ∧ (compare? .v6 a b = some .eq ↔ x = y) ∧
        (compare? .v6 a b = some .gt ↔ y < x) := by
  constructor
  · have spelled (c : String) : full? c = none ↔ Family.v6.read? c = none := Option.map_eq_none_iff
    rw [spelled, spelled, compare?]
    cases Family.v6.read? a <;> cases Family.v6.read? b <;> simp
  · intro address other read readOther
    have value : compare? .v6 a b = some (compare address.toNat other.toNat) := by
      simp [compare?, read, readOther]
    refine ⟨_, _, full?_of_read read, full?_of_read readOther, full?_of_read (Family.v6.read?_write address),
      full?_of_read (Family.v6.read?_write other), ?_, ?_, ?_⟩
    · rw [value, Option.some.injEq, Nat.compare_eq_lt, Hextets.full_lt_iff]
    · rw [value, Option.some.injEq, Nat.compare_eq_eq, Hextets.full_inj, BitVec.toNat_inj]
    · rw [value, Option.some.injEq, Nat.compare_eq_gt, Hextets.full_lt_iff]

/-- Spelled out, the first of the two addresses would come last. -/
theorem compare_as_full_tail :
    let a := "1::"
    let b := "::FFFF:255.0.0.1"
    Family.v6.read? a = some 0x10000000000000000000000000000#128 ∧ Family.v6.read? b = some 0xffffff000001#128 ∧
      compare? .v6 a b = some .gt := by
  intro a b
  have read : Family.v6.read? a = some 0x10000000000000000000000000000#128 := by decide +kernel
  have readOther : Family.v6.read? b = some 0xffffff000001#128 := by decide +kernel
  have fullA : full? a = some "0001:0000:0000:0000:0000:0000:0000:0000" := by decide +kernel
  have fullB : full? b = some "0000:0000:0000:0000:0000:ffff:ff00:0001" := by decide +kernel
  obtain ⟨x, y, isX, isY, _, _, _, _, above⟩ := (compare_as_full a b).2 _ _ read readOther
  obtain rfl := Option.some.inj (fullA.symm.trans isX)
  obtain rfl := Option.some.inj (fullB.symm.trans isY)
  exact ⟨read, readOther, above.mpr (by decide)⟩

end Address
end AccessList
