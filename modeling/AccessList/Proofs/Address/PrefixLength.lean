import AccessList.Proofs.Numeral

/-! Prefix lengths that cannot be read. A text passes for digits also where a digit sign stands in it, and
where it is longer than any numeral may be. Such a text is no number and not refused as one, so that it
ends a comparison of addresses; every other text is compared. -/
namespace AccessList

open Text

theorem Text.isDigitSign_range {c : Char} (sign : isDigitSign c = true) :
    ∃ range ∈ digitSigns, range.1 ≤ c.toNat ∧ c.toNat ≤ range.2 := by
  obtain ⟨range, among, inside⟩ := List.any_eq_true.mp sign
  exact ⟨range, among, by simpa using inside⟩

theorem Text.zeros_apart : ∀ range ∈ digitSigns, ∀ first ∈ zeros, range.2 < first ∨ first + 10 ≤ range.1 := by
  decide

theorem Text.digitValue?_of_isDigitSign {c : Char} (sign : isDigitSign c = true) : digitValue? c = none := by
  obtain ⟨range, among, low, high⟩ := isDigitSign_range sign
  have apart : zeros.find? (fun first => first ≤ c.toNat && c.toNat < first + 10) = none := by
    apply List.find?_eq_none.mpr
    intro first member
    have := zeros_apart range among first member
    simp only [Bool.and_eq_true, decide_eq_true_eq, not_and]
    omega
  rw [digitValue?, apart, Option.map_none]

theorem Text.isBlank_of_isDigitSign {c : Char} (sign : isDigitSign c = true) : isBlank c = false := by
  simp [isDigitSign, digitSigns] at sign
  simp only [isBlank]
  rw [← Bool.not_eq_true]
  simp only [Bool.or_eq_true, Bool.and_eq_true, decide_eq_true_eq, beq_iff_eq]
  omega

theorem Text.hexValue?_of_isDigitSign {c : Char} (sign : isDigitSign c = true) : hexValue? c = none := by
  have foreign : ∀ range ∈ digitSigns, 0x80 ≤ range.1 := by decide
  obtain ⟨range, among, low, _⟩ := isDigitSign_range sign
  have := foreign range among
  have beyond (d : Char) (ascii : d.toNat < 0x80) : ¬ c ≤ d := by
    intro below
    have : c.toNat ≤ d.toNat := below
    omega
  simp [hexValue?, beyond]

namespace Numeral

variable {cs : List Char} {c : Char} {ds : List Nat} {text : String} {n limit : Nat}

/-- A text that passes for digits and is no number. -/
structure IsDeceptive (text : String) : Prop where
  digits : isDigits text = true
  valueless : (∃ c ∈ text.toList, isDigitSign c = true) ∨ maxDigits < text.length

theorem digit_or_sign (digits : isDigits text = true) :
    text ≠ "" ∧ ∀ c ∈ text.toList, (∃ d, digitValue? c = some d) ∨ isDigitSign c = true := by
  simp only [isDigits, Bool.and_eq_true, List.all_eq_true, Bool.or_eq_true] at digits
  obtain ⟨given, all⟩ := digits
  refine ⟨by simpa using given, fun c member => ?_⟩
  rcases all c member with decimal | sign
  · exact .inl (Option.isSome_iff_exists.mp decimal)
  · exact .inr sign

theorem digitIn?_sign (sign : isDigitSign c = true) : digitIn? 10 c = none := by
  simp [digitIn?, digitValue?_of_isDigitSign sign, hexValue?_of_isDigitSign sign]

theorem scanDigits_sign (needed : Bool)
    (all : ∀ c ∈ cs, (∃ d, digitValue? c = some d) ∨ isDigitSign c = true)
    (sign : ∃ c ∈ cs, isDigitSign c = true) :
    scanDigits 10 needed cs = none ∨ ∃ ds rest, scanDigits 10 needed cs = some (ds, rest) ∧ rest ≠ [] := by
  induction cs generalizing needed with
  | nil =>
    obtain ⟨c, member, _⟩ := sign
    cases member
  | cons first rest ih =>
    obtain ⟨here, later⟩ := List.forall_mem_cons.mp all
    by_cases stops : isDigitSign first = true
    · have noUnderscore : first ≠ '_' := by
        rintro rfl
        exact absurd stops (by decide)
      cases needed with
      | true =>
        left
        simp [scanDigits, digitIn?_sign stops]
      | false =>
        right
        exact ⟨[], first :: rest, by simp [scanDigits, digitIn?_sign stops, noUnderscore], by simp⟩
    · obtain ⟨d, value⟩ := here.resolve_right stops
      have signLater : ∃ c ∈ rest, isDigitSign c = true := by
        obtain ⟨c, member, isSign⟩ := sign
        rcases List.mem_cons.mp member with rfl | among
        · exact absurd isSign stops
        · exact ⟨c, among, isSign⟩
      rcases ih false later signLater with none | ⟨ds, left, found, some⟩
      · left
        simp [scanDigits, digitIn?_digit value, none]
      · right
        exact ⟨d :: ds, left, by simp [scanDigits, digitIn?_digit value, found], some⟩

theorem isMargin_digit_or_sign (either : (∃ d, digitValue? c = some d) ∨ isDigitSign c = true) :
    isMargin c = false := by
  rcases either with ⟨d, value⟩ | sign
  · exact isMargin_digit value
  · simp [isMargin, isBlank_of_isDigitSign sign]

theorem splitSign_digit_or_sign (either : (∃ d, digitValue? c = some d) ∨ isDigitSign c = true) :
    splitSign (c :: cs) = (false, c :: cs) := by
  rcases either with ⟨d, value⟩ | sign
  · exact splitSign_digit value
  · apply splitSign_plain
    · rintro rfl
      exact absurd sign (by decide)
    · rintro rfl
      exact absurd sign (by decide)

theorem read_digits (digits : isDigits text = true) :
    read text = match scanDigits 10 true text.toList with
      | none => .error (.malformed text)
      | some (ds, rest) =>
        if maxDigits < ds.length then .error (.tooLong ds.length)
        else if !rest.isEmpty then .error (.malformed text)
        else .ok (ofDigits 10 ds) := by
  obtain ⟨given, all⟩ := digit_or_sign digits
  have plain : ∀ c ∈ text.toList, isMargin c = false := fun c member => isMargin_digit_or_sign (all c member)
  rw [read, readIn, trimMargins_plain plain]
  cases chars : text.toList with
  | nil => exact absurd (String.toList_eq_nil_iff.mp chars) given
  | cons first rest =>
    have here := all first (by simp [chars])
    simp only [splitSign_digit_or_sign here, dropMark_decimal]
    cases scanDigits 10 true (first :: rest) <;> simp

theorem read_deceptive (deceptive : IsDeceptive text) : ∃ e, read text = .error e := by
  obtain ⟨digits, valueless⟩ := deceptive
  obtain ⟨given, all⟩ := digit_or_sign digits
  rw [read_digits digits]
  by_cases sign : ∃ c ∈ text.toList, isDigitSign c = true
  · rcases scanDigits_sign true all sign with none | ⟨ds, rest, found, some⟩
    · exact ⟨_, by rw [none]⟩
    · rw [found]
      by_cases long : maxDigits < ds.length
      · exact ⟨_, by simp only [long, if_true]; rfl⟩
      · have left : (!rest.isEmpty) = true := by simpa using some
        exact ⟨_, by simp only [long, left, if_false, if_true]; rfl⟩
  · have decimal : ∀ c ∈ text.toList, ∃ d, digitValue? c = some d := by
      intro c member
      exact (all c member).resolve_right fun isSign => sign ⟨c, member, isSign⟩
    obtain ⟨ds, values⟩ := exists_mapM decimal
    have nonempty : text.toList ≠ [] := by simpa using given
    have long : maxDigits < ds.length := by
      rw [length_of_mapM values, String.length_toList]
      exact valueless.resolve_left sign
    rw [scanDigits_digits values fun _ => nonempty]
    exact ⟨_, by simp only [long, if_true]; rfl⟩

theorem isDecimal_of_digits (digits : isDigits text = true) (honest : ¬ IsDeceptive text) :
    ∃ n, IsDecimal text n := by
  obtain ⟨given, all⟩ := digit_or_sign digits
  have noSign : ¬ ∃ c ∈ text.toList, isDigitSign c = true := fun sign => honest ⟨digits, .inl sign⟩
  have bound : text.length ≤ maxDigits := by
    apply Nat.le_of_not_lt
    exact fun long => honest ⟨digits, .inr long⟩
  have decimal : ∀ c ∈ text.toList, ∃ d, digitValue? c = some d := by
    intro c member
    exact (all c member).resolve_right fun isSign => noSign ⟨c, member, isSign⟩
  obtain ⟨ds, values⟩ := exists_mapM decimal
  refine ⟨ofDigits 10 ds, ds, values, ?_, ?_, rfl⟩
  · rintro rfl
    have empty := length_of_mapM values
    exact given (by simpa using empty.symm)
  · rwa [length_of_mapM values, String.length_toList]

end Numeral

namespace Address

open Numeral

variable {f : Family} {s test field text : String} {limit n : Nat}

/-- A prefix length is a number within its bound, or there is none; only a text that deceives has no
answer. -/
theorem prefixLength?_cases (limit : Nat) (text : String) :
    (IsDeceptive text ∧ ∃ e, prefixLength? limit text = .error e) ∨
      ¬ IsDeceptive text ∧ ((∃ n, IsDecimal text n ∧ n ≤ limit ∧ prefixLength? limit text = .ok (some n)) ∨
        prefixLength? limit text = .ok none) := by
  by_cases digits : isDigits text = true
  · by_cases deceptive : IsDeceptive text
    · obtain ⟨e, fails⟩ := read_deceptive deceptive
      exact .inl ⟨deceptive, e, by simp [prefixLength?, digits, fails, bind, Except.bind]⟩
    · obtain ⟨n, decimal⟩ := isDecimal_of_digits digits deceptive
      refine .inr ⟨deceptive, ?_⟩
      by_cases bound : n ≤ limit
      · exact .inl ⟨n, decimal, bound, prefixLength?_decimal decimal bound⟩
      · have beyond : (limit : Int) < n := by omega
        right
        simp [prefixLength?, digits, read_decimal decimal, beyond, bind, Except.bind, pure, Except.pure]
  · have honest : ¬ IsDeceptive text := fun deceptive => digits deceptive.digits
    exact .inr ⟨honest, .inr (by simp [prefixLength?, digits, pure, Except.pure])⟩

/-- A deceptive text stands after the first slash. -/
def HasDeceptiveLength (s : String) : Prop :=
  ∃ host length, cut '/' s = some (host, length) ∧ IsDeceptive length

def Cidr.IsSpelled (f : Family) (s : String) : Prop :=
  ∃ (a p : String) (address : Address f) (length : Nat), s = s!"{a}/{p}" ∧ f.read? a = some address ∧
    IsDecimal p length ∧ length ≤ f.width

def IsRangeSpelled (f : Family) (s : String) : Prop :=
  ∃ (a b : String) (low high : Address f), s = s!"{a}-{b}" ∧ f.read? a = some low ∧ f.read? b = some high

theorem Cidr.read?_cases (f : Family) (s : String) :
    (HasDeceptiveLength s ∧ ∃ e, read? f s = .error e) ∨
      ¬ HasDeceptiveLength s ∧ ((∃ c, IsSpelled f s ∧ read? f s = .ok (some c)) ∨ read? f s = .ok none) := by
  cases split : cut '/' s with
  | none =>
    have honest : ¬ HasDeceptiveLength s := by
      rintro ⟨host, length, found, _⟩
      rw [split] at found
      cases found
    exact .inr ⟨honest, .inr (by simp [read?, split, pure, Except.pure])⟩
  | some parts =>
    obtain ⟨host, length⟩ := parts
    have deceptive_iff : HasDeceptiveLength s ↔ IsDeceptive length := by
      simp [HasDeceptiveLength, split]
    rw [deceptive_iff]
    rcases prefixLength?_cases f.width length with ⟨deceptive, e, fails⟩ | ⟨honest, ⟨n, decimal, bound, found⟩ | none⟩
    · exact .inl ⟨deceptive, e, by simp [read?, split, fails, bind, Except.bind]⟩
    · refine .inr ⟨honest, ?_⟩
      cases read : f.read? host with
      | none => exact .inr (by simp [read?, split, found, read, bind, Except.bind, pure, Except.pure])
      | some address =>
        left
        refine ⟨⟨address, n⟩, ⟨host, length, address, n, join_of_cut rfl split, read, decimal, bound⟩, ?_⟩
        simp [read?, split, found, read, bind, Except.bind, pure, Except.pure]
    · refine .inr ⟨honest, .inr ?_⟩
      simp [read?, split, none, bind, Except.bind, pure, Except.pure]

/-- A comparison with a segment ends without an answer only where one of the texts deceives, and the
answer is yes only for two that are well-formed. -/
theorem isInSegment_answers (f : Family) (test segment : String) :
    ((∃ e, isInSegment f test segment = .error e) ↔ HasDeceptiveLength test ∨ HasDeceptiveLength segment) ∧
      (isInSegment f test segment = .ok true → Cidr.IsSpelled f test ∧ Cidr.IsSpelled f segment) := by
  rcases Cidr.read?_cases f test with ⟨deceptive, e, fails⟩ | ⟨honest, readTest⟩
  · simp [isInSegment, deceptive, fails, bind, Except.bind]
  · rcases Cidr.read?_cases f segment with ⟨deceptive, e, fails⟩ | ⟨honest', readSegment⟩
    · rcases readTest with ⟨c, _, found⟩ | none
      · simp [isInSegment, deceptive, found, fails, bind, Except.bind]
      · simp [isInSegment, deceptive, none, fails, bind, Except.bind]
    · rcases readTest with ⟨c, spelled, found⟩ | none
      · rcases readSegment with ⟨d, spelled', found'⟩ | none'
        · simp [isInSegment, honest, honest', found, found', spelled, spelled', bind, Except.bind, pure,
            Except.pure]
        · simp [isInSegment, honest, honest', found, none', bind, Except.bind, pure, Except.pure]
      · rcases readSegment with ⟨d, _, found'⟩ | none'
        · simp [isInSegment, honest, honest', none, found', bind, Except.bind, pure, Except.pure]
        · simp [isInSegment, honest, honest', none, none', bind, Except.bind, pure, Except.pure]

theorem isRangeSpelled_of_readRange? {low high : Address f} (read : readRange? f s = some (low, high)) :
    IsRangeSpelled f s := by
  obtain ⟨⟨a, b⟩, split, ends⟩ := Option.bind_eq_some_iff.mp read
  cases readLow : f.read? a with
  | none => simp [readLow] at ends
  | some low =>
    cases readHigh : f.read? b with
    | none => simp [readLow, readHigh] at ends
    | some high => exact ⟨a, b, low, high, join_of_cut rfl split, readLow, readHigh⟩

/-- A comparison with a range ends without an answer only where the text that is compared deceives. -/
theorem isInRange_answers (f : Family) (test range : String) :
    ((∃ e, isInRange f test range = .error e) ↔ HasDeceptiveLength test) ∧
      (isInRange f test range = .ok true → Cidr.IsSpelled f test ∧ IsRangeSpelled f range) := by
  rcases Cidr.read?_cases f test with ⟨deceptive, e, fails⟩ | ⟨honest, ⟨c, spelled, found⟩ | none⟩
  · simp [isInRange, deceptive, fails, bind, Except.bind]
  · cases read : readRange? f range with
    | none => simp [isInRange, honest, found, read, bind, Except.bind, pure, Except.pure]
    | some ends =>
      have ranged := isRangeSpelled_of_readRange? read
      simp [isInRange, honest, found, read, spelled, ranged, bind, Except.bind, pure, Except.pure]
  · simp [isInRange, honest, none, bind, Except.bind, pure, Except.pure]

end Address
end AccessList
