import AccessList.Lookup.Within
import AccessList.Proofs.Address.Block
import AccessList.Proofs.Address.Spelling
import AccessList.Proofs.Numeral

/-! Containment of a query's address in an address field. Both stand for sets of addresses of the two
families, and the test answers whether one set lies in the other. -/
namespace AccessList

open Text

def Family.kind : Family → AddressKind
  | .v4 => .v4
  | .v6 => .v6

namespace Lookup

/-- The addresses that a well-formed address field covers. -/
inductive FieldCovers : String → Set Host → Prop where
  | all : FieldCovers Field.anyAddress Set.univ
  | block {f : Family} {a p : String} {address : Address f} {length : Nat}
      (read : f.read? a = some address) (decimal : Numeral.IsDecimal p length)
      (bound : length ≤ f.width) :
      FieldCovers s!"{a}/{p}" (f.hosts (Address.block length address))
  | range {f : Family} {a b : String} {low high : Address f}
      (readLow : f.read? a = some low) (readHigh : f.read? b = some high) :
      FieldCovers s!"{a}-{b}" (f.hosts (Address.range low high))

/-- The addresses that an address with a prefix length asks for: its block if it is the first address
of the block, and else itself alone. -/
inductive Asks (f : Family) : String → Set Host → Prop where
  | network {a p : String} {address : Address f} {length : Nat}
      (read : f.read? a = some address) (decimal : Numeral.IsDecimal p length)
      (bound : length ≤ f.width) (first : Address.IsFirst length address) :
      Asks f s!"{a}/{p}" (f.hosts (Address.block length address))
  | host {a p : String} {address : Address f} {length : Nat}
      (read : f.read? a = some address) (decimal : Numeral.IsDecimal p length)
      (bound : length ≤ f.width) (inner : ¬ Address.IsFirst length address) :
      Asks f s!"{a}/{p}" (f.hosts {address})

end Lookup

namespace Address.Cidr

variable {f : Family} {a p : String} {address : Address f} {length : Nat}

theorem read?_spelled (read : f.read? a = some address) (decimal : Numeral.IsDecimal p length)
    (bound : length ≤ f.width) : read? f s!"{a}/{p}" = .ok (some ⟨address, length⟩) := by
  have split : cut '/' s!"{a}/{p}" = some (a, p) :=
    cut_join rfl (not_mem_of_spelling read (by decide))
  simp [read?, split, read, prefixLength?_decimal decimal bound, bind, Except.bind, pure, Except.pure]

theorem span_le {c : Cidr f} (bound : c.length ≤ f.width) : c.span ≤ f.width := by
  unfold span
  split
  · exact bound
  · exact Nat.le_refl _

theorem isIn_iff {test segment : Cidr f} (testBound : test.length ≤ f.width)
    (segmentBound : segment.length ≤ f.width) : test.isIn segment = true ↔
      block test.span test.address ⊆ block segment.length segment.address := by
  rw [block_subset_block (span_le testBound) segmentBound]
  simp [isIn]

end Address.Cidr

namespace AddressKind

variable {f : Family} {a p : String} {address : Address f} {length : Nat}

theorem classify_of_colon {s : String} (colon : ':' ∈ s.toList) (plain : isQuadCidr s = false) :
    classify s = .v6 := by
  simp [classify, plain, has_iff.mpr colon]

theorem isQuadCidr_colon {s : String} (colon : ':' ∈ s.toList) : isQuadCidr s = false := by
  unfold isQuadCidr
  split
  · next host length parts =>
    by_contra dotted
    simp only [Bool.not_eq_false, Bool.and_eq_true] at dotted
    obtain ⟨⟨looks, _⟩, digits⟩ := dotted
    rcases mem_fields '/' colon with slash | ⟨part, among, inside⟩
    · cases slash
    rw [parts] at among
    simp only [List.mem_cons, List.not_mem_nil, or_false] at among
    rcases among with rfl | rfl
    · simp only [Address.looksDotted, Bool.and_eq_true, List.all_eq_true] at looks
      rcases mem_fields '.' inside with dot | ⟨octet, amongOctets, insideOctet⟩
      · cases dot
      · have decimal := (looks.2 octet amongOctets).2 ':' insideOctet
        exact absurd decimal (by decide)
    · exact absurd (List.all_eq_true.mp digits ':' inside) (by decide)
  · rfl

theorem classify_spelled (read : f.read? a = some address) (decimal : Numeral.IsDecimal p length) :
    classify s!"{a}/{p}" = f.kind := by
  have chars (c : Char) : c ∈ s!"{a}/{p}".toList ↔ c ∈ a.toList ∨ c = '/' ∨ c ∈ p.toList := mem_join rfl
  cases f with
  | v4 =>
    have parts : fields '/' s!"{a}/{p}" = [a, p] :=
      fields_pair rfl (Address.not_mem_of_spelling read (by decide))
        (Numeral.not_mem_decimal decimal (by decide))
    have shape : isQuadCidr s!"{a}/{p}" = true := by
      simp [isQuadCidr, parts, Address.Dotted.looksDotted_of_read? read,
        Numeral.ne_empty_of_isDecimal decimal, Numeral.all_isDecimal decimal]
    rw [classify, if_pos shape]
    rfl
  | v6 =>
    have colon : ':' ∈ s!"{a}/{p}".toList :=
      (chars ':').mpr (.inl ((Address.colon_mem_iff read).mpr rfl))
    exact classify_of_colon colon (isQuadCidr_colon colon)

end AddressKind

namespace Lookup

variable {f : Family} {field text : String} {covered asked : Set Host}

theorem Asks.cidr (asks : Asks f text asked) : ∃ c : Address.Cidr f,
    Address.Cidr.read? f text = .ok (some c) ∧ c.length ≤ f.width ∧
      asked = f.hosts (Address.block c.span c.address) := by
  cases asks with
  | @network a p address length read decimal bound first =>
    refine ⟨⟨address, length⟩, Address.Cidr.read?_spelled read decimal bound, bound, ?_⟩
    rw [Address.Cidr.span, if_pos (Address.network_eq_self_iff.mpr first)]
  | @host a p address length read decimal bound inner =>
    refine ⟨⟨address, length⟩, Address.Cidr.read?_spelled read decimal bound, bound, ?_⟩
    rw [Address.Cidr.span, if_neg (mt Address.network_eq_self_iff.mp inner), Address.block_width]

theorem Asks.nonempty (asks : Asks f text asked) : ∃ s, asked = f.hosts s ∧ s.Nonempty := by
  obtain ⟨c, _, _, rfl⟩ := asks.cidr
  exact ⟨_, rfl, _, Address.mem_block_self⟩

theorem isInSegment_spelled {a p : String} {address : Address f} {length : Nat}
    (asks : Asks f text asked) (read : f.read? a = some address)
    (decimal : Numeral.IsDecimal p length) (bound : length ≤ f.width) :
    ∃ b, Address.isInSegment f text s!"{a}/{p}" = .ok b ∧
      (b = true ↔ asked ⊆ f.hosts (Address.block length address)) := by
  obtain ⟨c, readText, textBound, rfl⟩ := asks.cidr
  let segment : Address.Cidr f := ⟨address, length⟩
  refine ⟨c.isIn segment, ?_, ?_⟩
  · simp [Address.isInSegment, readText, Address.Cidr.read?_spelled read decimal bound, segment, bind,
      Except.bind, pure, Except.pure]
  · rw [Family.hosts_subset_hosts]
    exact Address.Cidr.isIn_iff textBound bound

theorem isInRange_spelled {a b : String} {low high : Address f} (asks : Asks f text asked)
    (readLow : f.read? a = some low) (readHigh : f.read? b = some high) :
    ∃ inside, Address.isInRange f text s!"{a}-{b}" = .ok inside ∧
      (inside = true ↔ asked ⊆ f.hosts (Address.range low high)) := by
  obtain ⟨c, readText, _, rfl⟩ := asks.cidr
  have split : cut '-' s!"{a}-{b}" = some (a, b) :=
    cut_join rfl (Address.not_mem_of_spelling readLow (by decide))
  refine ⟨decide (low ≤ c.firstAddress) && decide (c.lastAddress ≤ high), ?_, ?_⟩
  · simp [Address.isInRange, Address.readRange?, readText, split, readLow, readHigh, bind, Except.bind,
      pure, Except.pure]
  · rw [Family.hosts_subset_hosts, Address.block_subset_range]
    rw [Bool.and_eq_true, decide_eq_true_iff, decide_eq_true_iff]
    rfl

/-- Fields of another family are ruled out by their colons. -/
theorem isInField_other (colon : has ':' field ≠ decide (f = .v6)) :
    isInField f field text = .ok false := by
  have differ : (decide (f = .v6) != has ':' field) = true := by
    simpa [bne_iff_ne] using colon.symm
  simp [isInField, differ, pure, Except.pure]

theorem isInField_segment (colon : has ':' field = decide (f = .v6)) (dash : '-' ∉ field.toList)
    (slash : '/' ∈ field.toList) : isInField f field text = Address.isInSegment f text field := by
  have noDash : has '-' field = false := by simpa [has] using dash
  simp [isInField, colon, noDash, has_iff.mpr slash]

theorem isInField_range (colon : has ':' field = decide (f = .v6)) (dash : '-' ∈ field.toList) :
    isInField f field text = Address.isInRange f text field := by
  simp [isInField, colon, has_iff.mpr dash]

theorem isWithin_field (special : field ≠ Field.anyAddress) :
    isWithin field text f.kind = isInField f field text := by
  cases f <;> simp [isWithin, Family.kind, special]

theorem isWithin_other {g : Family} {s : Set (Address g)} (asks : Asks f text asked)
    (special : field ≠ Field.anyAddress) (colon : has ':' field = decide (g = .v6)) (differ : f ≠ g) :
    ∃ b, isWithin field text f.kind = .ok b ∧ (b = true ↔ asked ⊆ g.hosts s) := by
  obtain ⟨t, rfl, nonempty⟩ := asks.nonempty
  refine ⟨false, ?_, ?_⟩
  · rw [isWithin_field special, isInField_other]
    rw [colon]
    cases f <;> cases g <;> simp_all
  · simp only [Bool.false_eq_true, false_iff]
    intro subset
    exact differ (Family.hosts_subset_same nonempty subset)

theorem block_ne_anyAddress {a p : String} {address : Address f} (read : f.read? a = some address) :
    s!"{a}/{p}" ≠ Field.anyAddress := by
  intro same
  have split : cut '/' s!"{a}/{p}" = some (a, p) :=
    cut_join rfl (Address.not_mem_of_spelling read (by decide))
  have parts : cut '/' Field.anyAddress = some ("0", "0") := by decide
  obtain rfl : a = "0" := by simp_all
  cases f
  · simp [Family.read?, show Address.Dotted.read? "0" = none by decide +kernel] at read
  · simp [Family.read?, show Address.Hextets.read? "0" = none by decide +kernel] at read

/-- The test is exact: it answers for every well-formed field and query, and an address lies in a field
just when all that it asks for does. -/
theorem isWithin_iff_subset (covers : FieldCovers field covered) (asks : Asks f text asked) :
    ∃ b, isWithin field text f.kind = .ok b ∧ (b = true ↔ asked ⊆ covered) := by
  cases covers with
  | all => exact ⟨true, by simp [isWithin, pure, Except.pure], by simp⟩
  | @block g a p address length read decimal bound =>
    have chars (c : Char) : c ∈ s!"{a}/{p}".toList ↔ c ∈ a.toList ∨ c = '/' ∨ c ∈ p.toList :=
      mem_join rfl
    have special := block_ne_anyAddress (p := p) read
    have colon : has ':' s!"{a}/{p}" = decide (g = .v6) := by
      have absent := Numeral.not_mem_decimal decimal (c := ':') (by decide)
      rw [Bool.eq_iff_iff, has_iff, chars, decide_eq_true_eq, ← Address.colon_mem_iff read]
      simp [absent]
    by_cases same : f = g
    · subst same
      have dash : '-' ∉ s!"{a}/{p}".toList := by
        have inAddress := Address.not_mem_of_spelling read (c := '-') (by decide)
        have inLength := Numeral.not_mem_decimal decimal (c := '-') (by decide)
        rw [chars]
        simp [inAddress, inLength]
      rw [isWithin_field special, isInField_segment colon dash ((chars '/').mpr (.inr (.inl rfl)))]
      exact isInSegment_spelled asks read decimal bound
    · exact isWithin_other asks special colon same
  | @range g a b low high readLow readHigh =>
    have chars (c : Char) : c ∈ s!"{a}-{b}".toList ↔ c ∈ a.toList ∨ c = '-' ∨ c ∈ b.toList :=
      mem_join rfl
    have dash : '-' ∈ s!"{a}-{b}".toList := (chars '-').mpr (.inr (.inl rfl))
    have special : s!"{a}-{b}" ≠ Field.anyAddress := by
      intro same
      exact absurd (same ▸ dash) (by decide)
    have colon : has ':' s!"{a}-{b}" = decide (g = .v6) := by
      rw [Bool.eq_iff_iff, has_iff, chars, decide_eq_true_eq, Address.colon_mem_iff readLow,
        Address.colon_mem_iff readHigh]
      simp
    by_cases same : f = g
    · subst same
      rw [isWithin_field special, isInField_range colon dash]
      exact isInRange_spelled asks readLow readHigh
    · exact isWithin_other asks special colon same

theorem Asks.classify (asks : Asks f text asked) : AddressKind.classify text = f.kind := by
  cases asks with
  | network read decimal => exact AddressKind.classify_spelled read decimal
  | host read decimal => exact AddressKind.classify_spelled read decimal

theorem Asks.not_subset_other {g : Family} (asks : Asks f text asked) (differ : g ≠ f) :
    ¬ asked ⊆ g.hosts Set.univ := by
  obtain ⟨s, rfl, nonempty⟩ := asks.nonempty
  intro subset
  exact differ (Family.hosts_subset_same nonempty subset).symm

/-- For every well-formed field and query there is an answer, and it is yes just when all addresses that
the query asks for lie in the field. No field of one family holds a query of the other. -/
theorem containment_exact (covers : FieldCovers field covered) (asks : Asks f text asked) :
    AddressKind.classify text = f.kind ∧
      ∃ b, isWithin field text f.kind = .ok b ∧ (b = true ↔ asked ⊆ covered) ∧
        ∀ g, g ≠ f → covered ⊆ g.hosts Set.univ → b = false := by
  obtain ⟨b, answer, exact⟩ := isWithin_iff_subset covers asks
  refine ⟨asks.classify, b, answer, exact, ?_⟩
  intro g differ other
  rw [← Bool.not_eq_true, exact]
  intro subset
  exact asks.not_subset_other differ (subset.trans other)

/-- A field with host bits, and a network inside it. -/
theorem containment_exact_network :
    FieldCovers "10.1.2.3/8" (Family.v4.hosts (Address.block 8 0x0a010203#32)) ∧
      Asks .v4 "10.64.0.0/10" (Family.v4.hosts (Address.block 10 0x0a400000#32)) ∧
      ∃ b, isWithin "10.1.2.3/8" "10.64.0.0/10" .v4 = .ok b ∧
        (b = true ↔ Family.v4.hosts (Address.block 10 0x0a400000#32) ⊆
          Family.v4.hosts (Address.block 8 0x0a010203#32)) := by
  have covers : FieldCovers "10.1.2.3/8" (Family.v4.hosts (Address.block 8 0x0a010203#32)) :=
    .block (f := .v4) (a := "10.1.2.3") (p := "8") (by decide +kernel) ⟨[8], by decide⟩ (by decide)
  have asks : Asks .v4 "10.64.0.0/10" (Family.v4.hosts (Address.block 10 0x0a400000#32)) :=
    .network (f := .v4) (a := "10.64.0.0") (p := "10") (by decide +kernel) ⟨[1, 0], by decide⟩ (by decide)
      ⟨41, by decide⟩
  obtain ⟨_, b, answer, exact, _⟩ := containment_exact covers asks
  exact ⟨covers, asks, b, answer, exact⟩

end Lookup
end AccessList
