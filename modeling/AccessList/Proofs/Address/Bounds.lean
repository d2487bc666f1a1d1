import AccessList.Proofs.Address.DottedForm
import AccessList.Proofs.Address.FullForm
import AccessList.Proofs.Address.PrefixLength
import AccessList.Proofs.Lookup.Containment

/-! The bounds of a block. The addresses of a block are those from its first one to its last one, so that a
segment holds just what the range between its bounds holds, for every text that is compared with the two. -/
namespace AccessList

theorem Family.read?_write (f : Family) (a : Address f) : f.read? (f.write a) = some a := by
  cases f with
  | v4 => exact Address.Dotted.read?_write a
  | v6 => exact Address.Hextets.read?_full a

theorem Family.write_inj {f : Family} {a b : Address f} : f.write a = f.write b ↔ a = b := by
  constructor
  · intro same
    have read := f.read?_write a
    rw [same, f.read?_write b] at read
    exact (Option.some.inj read).symm
  · rintro rfl
    rfl

theorem Address.Hextets.full_inj {a b : Address .v6} : full a = full b ↔ a = b := Family.write_inj (f := .v6)

namespace Address

open Text

variable {f : Family} {a m test : String} {address netmask : Address f} {length : Nat}

theorem block_eq_range {w : Nat} (length : Nat) (a : BitVec w) :
    block length a = range (network length a) (last (mask w length) a) :=
  Set.ext fun _ => mem_block_iff

theorem netmask?_length (bound : length ≤ f.width) :
    netmask? f length = some (f.write (mask f.width length)) := by
  have inside : (0 : Int) ≤ length ∧ (length : Int) ≤ f.width := by omega
  simp [netmask?, inside]

theorem firstUnder?_read (read : f.read? a = some address) (readMask : f.read? m = some netmask) :
    firstUnder? f a m = some (f.write (first netmask address)) := by
  simp [firstUnder?, read, readMask]

theorem lastUnder?_read (read : f.read? a = some address) (readMask : f.read? m = some netmask) :
    lastUnder? f a m = some (f.write (last netmask address)) := by
  simp [lastUnder?, read, readMask]

theorem prefixLength?_le {limit n : Nat} {text : String} (found : prefixLength? limit text = .ok (some n)) :
    n ≤ limit := by
  rcases prefixLength?_cases limit text with ⟨_, e, fails⟩ | ⟨_, ⟨n', _, bound, found'⟩ | none⟩
  · rw [fails] at found
    cases found
  · rw [found'] at found
    obtain rfl : n' = n := by simpa using found
    exact bound
  · rw [none] at found
    cases found

namespace Cidr

theorem length_le {c : Cidr f} (read : read? f test = .ok (some c)) : c.length ≤ f.width := by
  unfold read? at read
  split at read
  · cases read
  · next host length split =>
    cases found : prefixLength? f.width length with
    | error e => simp [found, bind, Except.bind] at read
    | ok length? =>
      cases length? with
      | none => simp [found, bind, Except.bind, pure, Except.pure] at read
      | some n =>
        cases readHost : f.read? host with
        | none => simp [found, readHost, bind, Except.bind, pure, Except.pure] at read
        | some address =>
          obtain rfl : ⟨address, n⟩ = c := by
            simpa [found, readHost, bind, Except.bind, pure, Except.pure] using read
          exact prefixLength?_le found

/-- What an address stands for lies in a segment if it lies between the bounds of the segment. -/
theorem isIn_eq_between {c segment : Cidr f} (bound : c.length ≤ f.width)
    (segmentBound : segment.length ≤ f.width) : c.isIn segment =
      (decide (network segment.length segment.address ≤ c.firstAddress) &&
        decide (c.lastAddress ≤ last (mask f.width segment.length) segment.address)) := by
  rw [Bool.eq_iff_iff, isIn_iff bound segmentBound, block_eq_range segment.length, block_subset_range,
    Bool.and_eq_true, decide_eq_true_iff, decide_eq_true_iff]
  rfl

end Cidr

/-- A segment and the range between its bounds answer alike. -/
theorem isInSegment_eq_isInRange_bounds {low high p : String} (read : f.read? a = some address)
    (decimal : Numeral.IsDecimal p length) (bound : length ≤ f.width)
    (readLow : f.read? low = some (network length address))
    (readHigh : f.read? high = some (last (mask f.width length) address)) :
    isInSegment f test s!"{a}/{p}" = isInRange f test s!"{low}-{high}" := by
  have segment := Cidr.read?_spelled read decimal bound
  have split : cut '-' s!"{low}-{high}" = some (low, high) :=
    cut_join rfl (not_mem_of_spelling readLow (by decide))
  have range : readRange? f s!"{low}-{high}" = some (network length address, last (mask f.width length) address) := by
    simp [readRange?, split, readLow, readHigh]
  simp only [isInSegment, isInRange, segment, range]
  cases readTest : Cidr.read? f test with
  | error e => rfl
  | ok test? =>
    cases test? with
    | none => rfl
    | some c => exact congrArg Except.ok (Cidr.isIn_eq_between (Cidr.length_le readTest) bound)

/-- The test for a segment and the test for the range from the first to the last address of the segment, under
the netmask of its prefix length, agree on every text. They end without an answer on the same texts, those
with a deceptive prefix length. -/
theorem isInSegment_eq_isInRange (test : String) (read : f.read? a = some address)
    (bound : length ≤ f.width) :
    ∃ netmask low high, netmask? f length = some netmask ∧ firstUnder? f a netmask = some low ∧
      lastUnder? f a netmask = some high ∧
      isInSegment f test s!"{a}/{length}" = isInRange f test s!"{low}-{high}" ∧
      ((∃ answer, isInSegment f test s!"{a}/{length}" = .ok answer) ↔ ¬ HasDeceptiveLength test) := by
  have readMask := f.read?_write (mask f.width length)
  have agree : isInSegment f test s!"{a}/{length}" =
      isInRange f test s!"{f.write (network length address)}-{f.write (last (mask f.width length) address)}" :=
    isInSegment_eq_isInRange_bounds read (isDecimal_length bound) bound (f.read?_write _) (f.read?_write _)
  refine ⟨_, _, _, netmask?_length bound, firstUnder?_read read readMask, lastUnder?_read read readMask,
    agree, ?_⟩
  rw [agree, ← (isInRange_answers f test _).1]
  cases isInRange f test _ <;> simp

/-- A segment of version 6 whose address has host bits, and a network in its first half. -/
theorem isInSegment_eq_isInRange_hextets :
    let a := "2001:DB8:1::ffff"
    let netmask := "ffff:ffff:fffe:0000:0000:0000:0000:0000"
    let low := "2001:0db8:0000:0000:0000:0000:0000:0000"
    let high := "2001:0db8:0001:ffff:ffff:ffff:ffff:ffff"
    Family.v6.read? a = some 0x20010db800010000000000000000ffff#128 ∧ 47 ≤ Family.v6.width ∧
      netmask? .v6 47 = some netmask ∧ firstUnder? .v6 a netmask = some low ∧
      lastUnder? .v6 a netmask = some high ∧
      isInSegment .v6 "2001:db8::/48" s!"{a}/{47}" = .ok true ∧
      isInRange .v6 "2001:db8::/48" s!"{low}-{high}" = .ok true := by
  intro a netmask low high
  have read : Family.v6.read? a = some 0x20010db800010000000000000000ffff#128 := by decide +kernel
  have bound : 47 ≤ Family.v6.width := by decide
  have mask : netmask? .v6 47 = some netmask := by decide +kernel
  have isLow : firstUnder? .v6 a netmask = some low := by decide +kernel
  have isHigh : lastUnder? .v6 a netmask = some high := by decide +kernel
  have inside : isInSegment .v6 "2001:db8::/48" s!"{a}/{47}" = .ok true := by decide +kernel
  obtain ⟨netmask', low', high', mask', isLow', isHigh', agree, _⟩ :=
    isInSegment_eq_isInRange "2001:db8::/48" read bound
  obtain rfl : netmask = netmask' := Option.some.inj (mask.symm.trans mask')
  obtain rfl : low = low' := Option.some.inj (isLow.symm.trans isLow')
  obtain rfl : high = high' := Option.some.inj (isHigh.symm.trans isHigh')
  exact ⟨read, bound, mask, isLow, isHigh, inside, agree.symm.trans inside⟩

end Address
end AccessList
