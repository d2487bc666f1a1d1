import AccessList.Proofs.Address.Bounds

/-! The first and the last address under a mask. They enclose the address, and under the mask each of them has
the same first and the same last address as the address itself, whichever bits the mask has. -/
namespace AccessList.Address

section Words

variable {w : Nat} (m a b : BitVec w)

theorem first_first : first m (first m a) = first m a := by
  rw [first, first, BitVec.and_assoc, BitVec.and_self]

theorem first_last : first m (last m a) = first m a := by
  apply BitVec.eq_of_getLsbD_eq
  intro i inside
  simp only [first, last, BitVec.getLsbD_and, BitVec.getLsbD_or, BitVec.getLsbD_not, inside, decide_true,
    Bool.true_and]
  cases m.getLsbD i <;> simp

theorem last_eq : last m a = ~~~first m (~~~a) := by
  rw [← not_last, BitVec.not_not]

theorem last_last : last m (last m a) = last m a := by
  rw [last_eq, not_last, first_first, ← last_eq]

theorem last_first : last m (first m a) = last m a := by
  have mirrored : ~~~first m a = last m (~~~a) := by rw [last_eq, BitVec.not_not]
  rw [last_eq, mirrored, first_last, ← last_eq]

theorem first_le : first m a ≤ a := by
  rw [BitVec.le_def, first, BitVec.toNat_and]
  exact Nat.and_le_left

theorem le_last : a ≤ last m a := by
  rw [BitVec.le_def, last, BitVec.toNat_or]
  exact Nat.left_le_or

theorem first_eq_iff_last_eq : first m b = first m a ↔ last m b = last m a := by
  constructor
  · intro same
    rw [← last_first, same, last_first]
  · intro same
    rw [← first_last, same, first_last]

end Words

variable {f : Family} {a m b : String} {address netmask other : Address f}

theorem compare?_isLE (read : f.read? a = some address) (readOther : f.read? b = some other)
    (order : address ≤ other) : (compare? f a b).map Ordering.isLE = some true := by
  simp only [compare?, read, readOther]
  exact congrArg some (Nat.isLE_compare.mpr order)

/-- For every mask, contiguous or not, the first and the last address under it enclose the address, and either of
them has the same two, in text. Texts with the same first address are those with the same last one. -/
theorem bounds_enclose (read : f.read? a = some address) (readMask : f.read? m = some netmask) :
    ∃ low high, firstUnder? f a m = some low ∧ lastUnder? f a m = some high ∧
      (compare? f low a).map Ordering.isLE = some true ∧ (compare? f a high).map Ordering.isLE = some true ∧
      firstUnder? f low m = some low ∧ firstUnder? f high m = some low ∧
      lastUnder? f low m = some high ∧ lastUnder? f high m = some high ∧
      ∀ b, firstUnder? f b m = some low ↔ lastUnder? f b m = some high := by
  have readLow := f.read?_write (first netmask address)
  have readHigh := f.read?_write (last netmask address)
  refine ⟨f.write (first netmask address), f.write (last netmask address), firstUnder?_read read readMask,
    lastUnder?_read read readMask, compare?_isLE readLow read (first_le netmask address),
    compare?_isLE read readHigh (le_last netmask address), ?_, ?_, ?_, ?_, ?_⟩
  · rw [firstUnder?_read readLow readMask, first_first]
  · rw [firstUnder?_read readHigh readMask, first_last]
  · rw [lastUnder?_read readLow readMask, last_first]
  · rw [lastUnder?_read readHigh readMask, last_last]
  · intro b
    cases readOther : f.read? b with
    | none => simp [firstUnder?, lastUnder?, readOther, readMask]
    | some other =>
      rw [firstUnder?_read readOther readMask, lastUnder?_read readOther readMask, Option.some.injEq,
        Option.some.injEq, Family.write_inj, Family.write_inj, first_eq_iff_last_eq]

/-- A mask with holes, written with a dotted tail, and another address with the same bounds. -/
theorem bounds_enclose_scattered :
    let a := "2001:DB8::1:abcd:5"
    let m := "::ffff:255.0.255.0"
    let low := "0000:0000:0000:0000:0000:0001:ab00:0000"
    let high := "ffff:ffff:ffff:ffff:ffff:0001:abff:00ff"
    Family.v6.read? a = some 0x20010db80000000000000001abcd0005#128 ∧
      Family.v6.read? m = some 0xffffff00ff00#128 ∧
      firstUnder? .v6 a m = some low ∧ lastUnder? .v6 a m = some high ∧
      (compare? .v6 low a).map Ordering.isLE = some true ∧ firstUnder? .v6 high m = some low ∧
      lastUnder? .v6 "::1:abf0:7" m = some high := by
  intro a m low high
  have read : Family.v6.read? a = some 0x20010db80000000000000001abcd0005#128 := by decide +kernel
  have readMask : Family.v6.read? m = some 0xffffff00ff00#128 := by decide +kernel
  have isLow : firstUnder? .v6 a m = some low := by decide +kernel
  have isHigh : lastUnder? .v6 a m = some high := by decide +kernel
  have shared : firstUnder? .v6 "::1:abf0:7" m = some low := by decide +kernel
  obtain ⟨low', high', first, last, below, _, _, highFirst, _, _, alike⟩ := bounds_enclose read readMask
  obtain rfl : low = low' := Option.some.inj (isLow.symm.trans first)
  obtain rfl : high = high' := Option.some.inj (isHigh.symm.trans last)
  exact ⟨read, readMask, isLow, isHigh, below, highFirst, (alike "::1:abf0:7").mp shared⟩

end AccessList.Address
