import AccessList.Address.Cidr
import AccessList.Proofs.Text.Fields

/-! Decimal numerals of digits alone. They are read as the numbers they spell, in digits of any script
and with any number of leading zeros, up to the length that is refused. -/
namespace AccessList

open Text

theorem Text.isBlank_zeros : ∀ first ∈ zeros, ∀ value < 10,
    isBlank (Char.ofNat (first + value)) = false := by decide +kernel

theorem Text.isBlank_of_digitValue? {c : Char} {d : Nat} (h : digitValue? c = some d) :
    isBlank c = false := by
  simp only [digitValue?, Option.map_eq_some_iff] at h
  obtain ⟨first, found, rfl⟩ := h
  have inside := List.find?_some found
  simp only [Bool.and_eq_true, decide_eq_true_eq] at inside
  have place : first + (c.toNat - first) = c.toNat := by omega
  have plain := isBlank_zeros first (List.mem_of_find?_eq_some found) (c.toNat - first) (by omega)
  rwa [place, Char.ofNat_toNat] at plain

namespace Numeral

variable {cs : List Char} {c : Char} {ds : List Nat} {text : String} {n : Nat}

/-- A text of decimal digits that spells `n`. -/
def IsDecimal (text : String) (n : Nat) : Prop :=
  ∃ ds, text.toList.mapM digitValue? = some ds ∧ ds ≠ [] ∧ ds.length ≤ maxDigits ∧ ofDigits 10 ds = n

theorem trimMargins_plain (plain : ∀ c ∈ cs, isMargin c = false) : trimMargins cs = cs := by
  have inside (ds : List Char) (all : ∀ c ∈ ds, isMargin c = false) : ds.dropWhile isMargin = ds := by
    cases ds with
    | nil => rfl
    | cons first rest => simp [all first (by simp)]
  rw [trimMargins, inside cs plain, inside cs.reverse (by simpa using plain), List.reverse_reverse]

theorem splitSign_plain (minus : c ≠ '-') (plus : c ≠ '+') : splitSign (c :: cs) = (false, c :: cs) := by
  unfold splitSign
  split <;> simp_all

theorem isMargin_digit {d : Nat} (digit : digitValue? c = some d) : isMargin c = false := by
  simp [isMargin, isBlank_of_digitValue? digit]

theorem splitSign_digit {d : Nat} (digit : digitValue? c = some d) :
    splitSign (c :: cs) = (false, c :: cs) := by
  apply splitSign_plain
  · rintro rfl
    simp [show digitValue? '-' = none by decide] at digit
  · rintro rfl
    simp [show digitValue? '+' = none by decide] at digit

theorem digitIn?_digit {d : Nat} (digit : digitValue? c = some d) : digitIn? 10 c = some d := by
  simp [digitIn?, digit, Option.filter, digitValue?_lt digit]

theorem scanDigits_digits (digits : cs.mapM digitValue? = some ds) {needed : Bool}
    (some_left : needed = true → cs ≠ []) : scanDigits 10 needed cs = some (ds, []) := by
  induction cs generalizing ds needed with
  | nil =>
    obtain rfl : ds = [] := by simpa using digits.symm
    cases needed
    · rfl
    · simp at some_left
  | cons first rest ih =>
    simp only [List.mapM_cons, Option.bind_eq_bind, Option.bind_eq_some_iff] at digits
    obtain ⟨d, read, others, readRest, whole⟩ := digits
    obtain rfl : d :: others = ds := by simpa using whole
    simp [scanDigits, digitIn?_digit read, ih readRest]

theorem dropMark_decimal (cs : List Char) : dropMark 10 cs = cs := by
  unfold dropMark
  split
  · simp [show baseMark? 10 = none by decide]
  · rfl

theorem read_decimal (decimal : IsDecimal text n) : read text = .ok n := by
  obtain ⟨ds, digits, nonempty, bound, rfl⟩ := decimal
  have all (c : Char) (member : c ∈ text.toList) := exists_of_mapM digits member
  have plain : ∀ c ∈ text.toList, isMargin c = false := by
    intro c member
    obtain ⟨d, value⟩ := all c member
    exact isMargin_digit value
  rw [read, readIn, trimMargins_plain plain]
  cases chars : text.toList with
  | nil => simp [chars] at digits; simp [digits] at nonempty
  | cons first rest =>
    obtain ⟨d, value⟩ := all first (by simp [chars])
    rw [chars] at digits
    simp only [splitSign_digit value, dropMark_decimal, scanDigits_digits digits (by simp)]
    simp [Nat.not_lt.mpr bound]

theorem ne_empty_of_isDecimal (decimal : IsDecimal text n) : text ≠ "" := by
  obtain ⟨ds, digits, nonempty, _⟩ := decimal
  rintro rfl
  simp at digits
  simp [digits] at nonempty

theorem all_isDecimal (decimal : IsDecimal text n) : text.toList.all isDecimal = true := by
  obtain ⟨ds, digits, _⟩ := decimal
  rw [List.all_eq_true]
  intro c member
  obtain ⟨d, value⟩ := exists_of_mapM digits member
  simp [isDecimal, value]

theorem isDigits_decimal (decimal : IsDecimal text n) : isDigits text = true := by
  have all : ∀ c ∈ text.toList, (isDecimal c || isDigitSign c) = true := by
    intro c member
    simp [List.all_eq_true.mp (all_isDecimal decimal) c member]
  rw [isDigits, List.all_eq_true.mpr all]
  simpa using ne_empty_of_isDecimal decimal

theorem not_mem_decimal (decimal : IsDecimal text n) (other : isDecimal c = false) :
    c ∉ text.toList := by
  intro member
  have digit := List.all_eq_true.mp (all_isDecimal decimal) c member
  simp [other] at digit

theorem digitValue?_of_isDigit (digit : c.isDigit = true) : digitValue? c = some (c.toNat - 0x30) := by
  have inside : 0x30 ≤ c.toNat ∧ c.toNat < 0x30 + 10 := by
    have range : 0x30 ≤ c.toNat ∧ c.toNat ≤ 0x39 := by simpa [Char.isDigit, UInt32.le_iff_toNat_le] using digit
    omega
  simp [digitValue?, zeros, inside]

theorem isDigit_of_mem_toString (member : c ∈ (toString n).toList) : c.isDigit = true := by
  rw [Nat.toString_eq_ofList_toDigits, String.toList_ofList] at member
  exact Nat.isDigit_of_mem_toDigits (by decide) (by decide) member

theorem isInteger_toString (n : Nat) : isInteger (toString n) = true := by
  have decimal : ∀ c ∈ (toString n).toList, isDecimal c = true := by
    intro c member
    rw [isDecimal, digitValue?_of_isDigit (isDigit_of_mem_toString member), Option.isSome_some]
  cases chars : (toString n).toList with
  | nil => simp at chars
  | cons first rest =>
    rw [chars] at decimal
    obtain ⟨d, digit⟩ := Option.isSome_iff_exists.mp (decimal first (by simp))
    rw [isInteger, chars, splitSign_digit digit]
    exact List.all_eq_true.mpr decimal

theorem isDecimal_toString (short : decimalLength n ≤ maxDigits) : IsDecimal (toString n) n := by
  have digits : ∀ cs : List Char, (∀ c ∈ cs, c.isDigit = true) →
      cs.mapM digitValue? = some (cs.map (·.toNat - 0x30)) := by
    intro cs all
    induction cs with
    | nil => rfl
    | cons c cs ih =>
      obtain ⟨here, later⟩ := List.forall_mem_cons.mp all
      simp [digitValue?_of_isDigit here, ih later]
  have written : (toString n).toList = Nat.toDigits 10 n := by
    rw [Nat.toString_eq_ofList_toDigits, String.toList_ofList]
  refine ⟨(Nat.toDigits 10 n).map (·.toNat - 0x30), ?_, ?_, ?_, ?_⟩
  · rw [← written]
    exact digits _ fun c => isDigit_of_mem_toString
  · simp
  · rw [decimalLength, ← String.length_toList, written] at short
    simpa using short
  · rw [ofDigits, List.foldl_map]
    exact Nat.ofDigitChars_ten_toDigits

theorem read_minus (decimal : IsDecimal text n) : read ("-" ++ text) = .ok (-n) := by
  obtain ⟨ds, digits, nonempty, bound, rfl⟩ := decimal
  have chars : ("-" ++ text).toList = '-' :: text.toList := by simp
  have plain : ∀ c ∈ '-' :: text.toList, isMargin c = false := by
    refine List.forall_mem_cons.mpr ⟨by decide, fun c member => ?_⟩
    obtain ⟨d, value⟩ := exists_of_mapM digits member
    exact isMargin_digit value
  have given : text.toList ≠ [] := by
    rintro none
    rw [none] at digits
    exact nonempty (by simpa using digits.symm)
  rw [read, readIn, chars, trimMargins_plain plain]
  simp only [splitSign, dropMark_decimal, scanDigits_digits digits fun _ => given]
  simp [Nat.not_lt.mpr bound]

/-- Numbers that can be written can be read back. -/
theorem read_toString {n : Int} (short : isWritable n = true) : read (toString n) = .ok n := by
  have bound : decimalLength n.natAbs ≤ maxDigits := by simpa [isWritable] using short
  cases n with
  | ofNat n => exact read_decimal (isDecimal_toString bound)
  | negSucc n => exact read_minus (isDecimal_toString bound)

theorem not_mem_toString_nat (digit : c.isDigit = false) (n : Nat) : c ∉ (toString n).toList :=
  fun member => absurd (isDigit_of_mem_toString member) (by simp [digit])

theorem toList_toString_negSucc (n : Nat) :
    (toString (Int.negSucc n)).toList = '-' :: (toString (n + 1)).toList := by
  change ("-" ++ toString (n + 1)).toList = _
  simp

theorem not_mem_toString {n : Int} (digit : c.isDigit = false) (minus : c ≠ '-') : c ∉ (toString n).toList := by
  cases n with
  | ofNat n => exact not_mem_toString_nat digit n
  | negSucc n =>
    rw [toList_toString_negSucc, List.mem_cons, not_or]
    exact ⟨minus, not_mem_toString_nat digit (n + 1)⟩

/-- Different numbers are written differently, whatever their length. -/
theorem toString_inj {n m : Int} : toString n = toString m ↔ n = m := by
  have natural {n m : Nat} (same : toString n = toString m) : n = m := by
    rw [Nat.toString_eq_ofList_toDigits, Nat.toString_eq_ofList_toDigits, String.ofList_inj] at same
    rw [← Nat.ofDigitChars_ten_toDigits (n := n), same, Nat.ofDigitChars_ten_toDigits]
  -- Only what is written with a sign is negative.
  have signed (n : Nat) : '-' ∈ (toString (Int.negSucc n)).toList :=
    toList_toString_negSucc n ▸ List.mem_cons_self
  have unsigned (n : Nat) : '-' ∉ (toString (Int.ofNat n)).toList := not_mem_toString_nat (by decide) n
  refine ⟨fun same => ?_, congrArg toString⟩
  cases n with
  | ofNat n =>
    cases m with
    | ofNat m => exact congrArg Int.ofNat (natural same)
    | negSucc m => exact absurd (same ▸ signed m) (unsigned n)
  | negSucc n =>
    cases m with
    | ofNat m => exact absurd (same ▸ signed n) (unsigned m)
    | negSucc m =>
      have digits := congrArg String.toList same
      rw [toList_toString_negSucc, toList_toString_negSucc, List.cons.injEq, String.toList_inj] at digits
      exact congrArg Int.negSucc (Nat.succ.inj (natural digits.2))

end Numeral

theorem Address.isDecimal_length {f : Family} {n : Nat} (bound : n ≤ f.width) :
    Numeral.IsDecimal (toString n) n := by
  have short : ∀ n < 129, Numeral.decimalLength n ≤ Numeral.maxDigits := by decide +kernel
  have widest : f.width ≤ 128 := by cases f <;> decide
  exact Numeral.isDecimal_toString (short n (by omega))

theorem Address.prefixLength?_decimal {limit n : Nat} {text : String} (decimal : Numeral.IsDecimal text n)
    (bound : n ≤ limit) : prefixLength? limit text = .ok (some n) := by
  have inside : ¬ (limit : Int) < n := by omega
  simp [prefixLength?, Numeral.isDigits_decimal decimal, Numeral.read_decimal decimal, inside, bind,
    Except.bind, pure, Except.pure]

end AccessList
