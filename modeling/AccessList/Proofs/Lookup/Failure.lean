import AccessList.Proofs.Address.PrefixLength
import AccessList.Proofs.Lookup.Containment
import AccessList.Proofs.Lookup.Outcome
import AccessList.Proofs.Lookup.Separation

/-! Look-ups that end without a result. A look-up fails at a record just when one of the texts that it
compares there has a prefix length that passes for digits and is no number; all other texts, well-formed
or not, are answered. -/
namespace AccessList.Lookup

open Text Address

variable {t : Target} {r : Record} {records : List Record} {field text : String} {kind : AddressKind}

/-- The comparison of an address with a field has no answer. The field is of the address's family; its own
prefix length is read only where it is no range. -/
def IsStuck (field text : String) (kind : AddressKind) : Prop :=
  field ≠ Field.anyAddress ∧ ∃ f : Family, kind = f.kind ∧ (':' ∈ field.toList ↔ f = .v6) ∧
    (HasDeceptiveLength text ∧ ('-' ∈ field.toList ∨ '/' ∈ field.toList) ∨
      '-' ∉ field.toList ∧ HasDeceptiveLength field)

/-- A search has no answer at a record. The source is looked at first, and the destination only where the
source does not rule the record out. -/
inductive StopsAt (t : Target) (r : Record) : Prop where
  | source (looked : t.query.source.isGiven = true ∨ t.query.destination.isGiven = false)
      (stuck : IsStuck r.source t.source t.query.source.kind)
  | destination (looked : t.query.destination.isGiven = true ∨ t.query.source.isGiven = false)
      (passed : t.query.source.isGiven = true ∨ t.query.destination.isGiven = false →
        isWithin r.source t.source t.query.source.kind = .ok true)
      (stuck : IsStuck r.destination t.destination t.query.destination.kind)

theorem slash_of_hasDeceptiveLength (deceptive : HasDeceptiveLength text) : '/' ∈ text.toList := by
  obtain ⟨host, length, split, _⟩ := deceptive
  rw [(eq_of_cut split).1]
  simp

theorem isInField_error_iff {f : Family} : (∃ e, isInField f field text = .error e) ↔
    (':' ∈ field.toList ↔ f = .v6) ∧ (HasDeceptiveLength text ∧ ('-' ∈ field.toList ∨ '/' ∈ field.toList) ∨
      '-' ∉ field.toList ∧ HasDeceptiveLength field) := by
  by_cases colon : has ':' field = decide (f = .v6)
  · have same : ':' ∈ field.toList ↔ f = .v6 := by
      rw [← has_iff, colon, decide_eq_true_eq]
    by_cases dash : '-' ∈ field.toList
    · rw [isInField_range colon dash, (isInRange_answers f text field).1]
      simp [same, dash]
    · by_cases slash : '/' ∈ field.toList
      · rw [isInField_segment colon dash slash, (isInSegment_answers f text field).1]
        simp [same, dash, slash]
      · have honest : ¬ HasDeceptiveLength field := mt slash_of_hasDeceptiveLength slash
        have noDash : has '-' field = false := by simpa [has] using dash
        have noSlash : has '/' field = false := by simpa [has] using slash
        simp [isInField, colon, noDash, noSlash, dash, slash, honest, pure, Except.pure]
  · have differ : ¬ (':' ∈ field.toList ↔ f = .v6) := by
      rwa [← has_iff, ← decide_eq_true_eq (p := f = .v6), ← Bool.eq_iff_iff]
    rw [isInField_other colon]
    simp [differ]

theorem isWithin_error_iff : (∃ e, isWithin field text kind = .error e) ↔ IsStuck field text kind := by
  by_cases any : field = Field.anyAddress
  · simp [isWithin, IsStuck, any, pure, Except.pure]
  · have family (f : Family) : (∃ e, isWithin field text f.kind = .error e) ↔ IsStuck field text f.kind := by
      rw [isWithin_field any, isInField_error_iff]
      constructor
      · intro stuck
        exact ⟨any, f, rfl, stuck⟩
      · rintro ⟨_, g, same, stuck⟩
        obtain rfl : f = g := by cases f <;> cases g <;> first | rfl | cases same
        exact stuck
    have other (noFamily : ∀ f : Family, kind ≠ f.kind) : ¬ IsStuck field text kind := by
      rintro ⟨_, f, same, _⟩
      exact noFamily f same
    cases kind with
    | v4 => exact family .v4
    | v6 => exact family .v6
    | domain =>
      have never := other fun f => by cases f <;> simp [Family.kind]
      simp [isWithin, any, never, pure, Except.pure]
    | unknown =>
      have never := other fun f => by cases f <;> simp [Family.kind]
      simp [isWithin, any, never, pure, Except.pure]

/-- What the look at two fields in turn comes to. -/
theorem both_error_iff {first second : Except Numeral.Unreadable Bool} :
    (∃ e, (do if ← first then second else return false : Except Numeral.Unreadable Bool) = .error e) ↔
      (∃ e, first = .error e) ∨ first = .ok true ∧ ∃ e, second = .error e := by
  rcases first with e | _ | _
  · simp [bind, Except.bind]
  · simp [bind, Except.bind, pure, Except.pure]
  · simp [bind, Except.bind]

theorem isMatch_error_iff : (∃ e, isMatch t r = .error e) ↔ StopsAt t r := by
  have stops : StopsAt t r ↔
      (t.query.source.isGiven = true ∨ t.query.destination.isGiven = false) ∧
        IsStuck r.source t.source t.query.source.kind ∨
      (t.query.destination.isGiven = true ∨ t.query.source.isGiven = false) ∧
        (t.query.source.isGiven = true ∨ t.query.destination.isGiven = false →
          isWithin r.source t.source t.query.source.kind = .ok true) ∧
        IsStuck r.destination t.destination t.query.destination.kind := by
    constructor
    · rintro (⟨looked, stuck⟩ | ⟨looked, passed, stuck⟩)
      · exact .inl ⟨looked, stuck⟩
      · exact .inr ⟨looked, passed, stuck⟩
    · rintro (⟨looked, stuck⟩ | ⟨looked, passed, stuck⟩)
      · exact .source looked stuck
      · exact .destination looked passed stuck
  rw [stops, ← isWithin_error_iff, ← isWithin_error_iff]
  cases source : t.query.source.isGiven <;> cases destination : t.query.destination.isGiven
  · rw [isMatch_both (source.trans destination.symm), both_error_iff]
    simp
  · rw [isMatch_destination source destination]
    simp
  · rw [isMatch_source source destination]
    simp
  · rw [isMatch_both (source.trans destination.symm), both_error_iff]
    simp

/-- A search goes through all records unless one of them stops it. -/
theorem search_failure_iff : (search t records).failure = none ↔ ∀ r ∈ records, ¬ StopsAt t r := by
  have answers_iff : Answers t records ↔ ∀ r ∈ records, ¬ StopsAt t r := by
    apply forall₂_congr
    intro r _
    rw [← isMatch_error_iff]
    cases isMatch t r <;> simp
  rw [← answers_iff]
  constructor
  · intro fine
    exact answers_of_fine fine
  · intro answers
    exact search_fine answers rfl

theorem lookUpLine_failure_iff {line : String} : (lookUpLine records line).failure = none ↔
    ∀ q t, Query.ofLine? line = some q → target? q = some t → ∀ r ∈ records, ¬ StopsAt t r := by
  cases query : Query.ofLine? line with
  | none =>
    simp only [lookUpLine, query]
    split <;> simp
  | some q =>
    cases target : target? q with
    | none =>
      simp only [lookUpLine, query, lookUp, target, true_iff]
      rintro _ _ ⟨⟩ found
      rw [target] at found
      cases found
    | some t =>
      simp only [lookUpLine, query, lookUp_failure target, search_failure_iff]
      constructor
      · rintro fine _ _ ⟨⟩ found
        rw [target] at found
        cases found
        exact fine
      · exact fun fine => fine q t rfl target

theorem lookUpLines_failure_iff {lines : List String} : (lookUpLines records lines).failure = none ↔
    ∀ line ∈ lines, (lookUpLine records line).failure = none := by
  rw [lookUpLines_eq, accumulate_failure_iff]

/-- A comparison answers for every two texts but those with a deceptive prefix length, and says yes only
for well-formed ones. A look-up ends with a result just when it comes to no record where it would compare
such a text. -/
theorem lookUpText_answers_iff (records : List Record) (text : String) :
    (∀ f test segment,
      ((∃ e, isInSegment f test segment = .error e) ↔
        HasDeceptiveLength test ∨ HasDeceptiveLength segment) ∧
      (isInSegment f test segment = .ok true → Cidr.IsSpelled f test ∧ Cidr.IsSpelled f segment)) ∧
    (∀ f test range,
      ((∃ e, isInRange f test range = .error e) ↔ HasDeceptiveLength test) ∧
      (isInRange f test range = .ok true → Cidr.IsSpelled f test ∧ IsRangeSpelled f range)) ∧
    ((lookUpText records text).failure = none ↔ ∀ line ∈ lines text, ∀ q t,
      Query.ofLine? line = some q → target? q = some t → ∀ r ∈ records, ¬ StopsAt t r) := by
  refine ⟨isInSegment_answers, isInRange_answers, ?_⟩
  rw [lookUpText, lookUpLines_failure_iff]
  exact forall₂_congr fun line _ => lookUpLine_failure_iff

/-- A digit sign for a prefix length, in a field or in a query: the look-up has no result. -/
theorem deceptive_length_fails :
    let r : Record := { source := "10.0.0.0/²", destination := "0/0" }
    let r6 : Record := { source := "2001:0db8:0000:0000:0000:0000:0000:0000/32", destination := "0/0" }
    (lookUpText [r] "10.0.0.1/32").failure = some (.malformed "²") ∧
      (lookUpText [r6] "2001:db8::1/²").failure = some (.malformed "²") := by
  decide +kernel

end AccessList.Lookup
