import AccessList.Lookup.Query
import AccessList.Proofs.Text.Fields
import Mathlib.Computability.Language

/-! Domain names as a regular language. A name is a series of labels, each with a dot after it or without,
and labels may stand back to back. The classification of addresses accepts this language and nothing else,
though it cuts at the dots first and then looks for the ends of labels in one pass. -/
namespace AccessList.AddressKind

open Text
open scoped Computability

/-- One character of a class. -/
def one (ofClass : Char → Bool) : Language Char := {w | ∃ c, ofClass c = true ∧ w = [c]}

/-- Characters of a class, at least `low` and at most `high` of them. -/
def between (ofClass : Char → Bool) (low high : Nat) : Language Char :=
  {w | (∀ c ∈ w, ofClass c = true) ∧ low ≤ w.length ∧ w.length ≤ high}

def many (ofClass : Char → Bool) : Language Char := {w | (∀ c ∈ w, ofClass c = true) ∧ w ≠ []}

def letter (c : Char) : Language Char := {[c]}

def isLabelEnd (c : Char) : Bool := isDecimal c || ('A' ≤ c && c ≤ 'Z') || ('a' ≤ c && c ≤ 'z')

def isLabelInner (c : Char) : Bool := isLabelEnd c || c = '-'

def labels : Language Char := one isLabelEnd * between isLabelInner 1 61 * one isLabelEnd

def pieces : Language Char := labels * (letter '.' + 1)

def domainNames : Language Char := pieces * pieces∗

def quads : Language Char :=
  many isDecimal * letter '.' * many isDecimal * letter '.' * many isDecimal * letter '.' * many isDecimal

def quadCidrs : Language Char := quads * letter '/' * many isDecimal

variable {c d : Char} {s w run tail : List Char} {runs parts : List (List Char)} {l : Language Char}

theorem isLabelChar_eq (c : Char) : isLabelChar c = isLabelInner c := rfl

theorem isLabelEnd_iff : isLabelEnd c = true ↔ isLabelChar c = true ∧ c ≠ '-' := by
  by_cases hyphen : c = '-'
  · subst hyphen
    decide
  · simp [isLabelChar_eq, isLabelInner, hyphen]

theorem mem_labels : w ∈ labels ↔ (∀ x ∈ w, isLabelChar x = true) ∧ 3 ≤ w.length ∧ w.length ≤ 63 ∧
    w.head? ≠ some '-' ∧ w.getLast? ≠ some '-' := by
  constructor
  · intro member
    obtain ⟨_, front, _, ⟨b, last, rfl⟩, rfl⟩ := Language.mem_mul.mp member
    obtain ⟨_, ⟨a, first, rfl⟩, inner, ⟨all, low, high⟩, rfl⟩ := Language.mem_mul.mp front
    rw [isLabelEnd_iff] at first last
    refine ⟨?_, by simp; omega, by simp; omega, by simpa using first.2, by
      simpa [List.getLast?_cons] using last.2⟩
    intro x inside
    simp only [List.cons_append, List.nil_append, List.mem_append, List.mem_cons, List.not_mem_nil,
      or_false] at inside
    rcases inside with rfl | within | rfl
    · exact first.1
    · exact all x within
    · exact last.1
  · rintro ⟨all, low, high, first, last⟩
    obtain ⟨a, rest, rfl⟩ := List.exists_cons_of_ne_nil (List.ne_nil_of_length_pos (by omega : 0 < w.length))
    obtain ⟨inner, b, rfl⟩ : ∃ inner b, rest = inner ++ [b] := by
      rcases List.eq_nil_or_concat rest with rfl | found
      · simp at low
      · simpa using found
    simp only [List.length_cons, List.length_append, List.length_nil] at low high
    have firstEnd : isLabelEnd a = true := isLabelEnd_iff.mpr ⟨all a (by simp), by simpa using first⟩
    have lastEnd : isLabelEnd b = true := by
      refine isLabelEnd_iff.mpr ⟨all b (by simp), ?_⟩
      simpa [List.getLast?_cons] using last
    have inside : inner ∈ between isLabelInner 1 61 :=
      ⟨fun x member => all x (by simp [member]), by omega, by omega⟩
    have front : [a] ++ inner ∈ one isLabelEnd * between isLabelInner 1 61 :=
      Language.append_mem_mul ⟨a, firstEnd, rfl⟩ inside
    exact Language.append_mem_mul front ⟨b, lastEnd, rfl⟩

theorem exists_last_label (nonempty : w ≠ []) (series : w ∈ labels∗) :
    ∃ front ∈ labels∗, ∃ last ∈ labels, front ++ last = w := by
  rw [← Language.one_add_kstar_mul_self_eq_kstar, Language.mem_add, Language.mem_one] at series
  rcases series with empty | split
  · exact absurd empty nonempty
  · exact Language.mem_mul.mp split

theorem append_label (front : s ∈ labels∗) (last : w ∈ labels) : s ++ w ∈ labels∗ := by
  rw [← Language.one_add_kstar_mul_self_eq_kstar, Language.mem_add]
  exact .inr (Language.append_mem_mul front last)

theorem isLabelChar_of_mem_series (series : w ∈ labels∗) : ∀ x ∈ w, isLabelChar x = true := by
  obtain ⟨parts, rfl, all⟩ := Language.mem_kstar.mp series
  intro x inside
  obtain ⟨part, among, within⟩ := List.mem_flatten.mp inside
  exact (mem_labels.mp (all part among)).1 x within

/-- What the scan for the ends of labels knows of the characters so far: whether they are a series of labels,
and for each place, told by how much follows it, whether a label can start there. -/
structure Bounds (s : List Char) (scan : Bool × List Bool) : Prop where
  ends : scan.1 = true ↔ s ∈ labels∗
  length : scan.2.length = s.length
  starts : ∀ front c rest, s = front ++ c :: rest →
    (scan.2[rest.length]? = some true ↔ front ∈ labels∗ ∧ c ≠ '-')

theorem bounds_nil : Bounds [] (true, []) := by
  refine ⟨by simp [Language.nil_mem_kstar], rfl, ?_⟩
  intro front c rest whole
  simp at whole

theorem exists_place {k : Nat} (inside : k < w.length) :
    ∃ front d rest, w = front ++ d :: rest ∧ rest.length = k := by
  have bound : w.length - 1 - k < w.length := by omega
  refine ⟨w.take (w.length - 1 - k), w[w.length - 1 - k], w.drop (w.length - 1 - k + 1), ?_, ?_⟩
  · rw [← List.drop_eq_getElem_cons bound, List.take_append_drop]
  · rw [List.length_drop]
    omega

theorem getLast?_of_split {front last : List Char} (nonempty : last ≠ []) (whole : front ++ last = s ++ [c]) :
    last.getLast? = some c := by
  have same := congrArg List.getLast? whole
  rwa [List.getLast?_append_of_ne_nil front nonempty, List.getLast?_concat] at same

theorem reaches_iff {starts : List Bool} :
    ((starts.drop 2).take 61).any id = true ↔ ∃ k, 2 ≤ k ∧ k ≤ 62 ∧ starts[k]? = some true := by
  simp only [List.any_eq_true, id, exists_eq_right, List.mem_iff_getElem?, List.getElem?_take,
    List.getElem?_drop]
  constructor
  · rintro ⟨i, found⟩
    split at found
    · exact ⟨2 + i, by omega, by omega, found⟩
    · cases found
  · rintro ⟨k, low, high, found⟩
    refine ⟨k - 2, ?_⟩
    rw [if_pos (by omega), Nat.add_sub_of_le low]
    exact found

/-- One more character: a label can start at it, and it may be the last of a label. -/
theorem Bounds.step {scan : Bool × List Bool} (bounds : Bounds s scan)
    (all : ∀ x ∈ s ++ [c], isLabelChar x = true) : Bounds (s ++ [c]) (labelStep scan c) := by
  obtain ⟨ends, length, starts⟩ := bounds
  have startsAfter (front : List Char) (d : Char) (rest : List Char) (whole : s ++ [c] = front ++ d :: rest) :
      (((scan.1 && c ≠ '-') :: scan.2)[rest.length]? = some true ↔ front ∈ labels∗ ∧ d ≠ '-') := by
    rcases List.eq_nil_or_concat rest with rfl | ⟨before, last, rfl⟩
    · obtain ⟨rfl, same⟩ := List.append_inj' whole rfl
      obtain rfl : c = d := by simpa using same
      simp [ends]
    · have split : s ++ [c] = (front ++ d :: before) ++ [last] := by simpa using whole
      obtain ⟨same, _⟩ := List.append_inj' split rfl
      simpa using starts front d before same
  refine ⟨?_, by simp [labelStep, length], startsAfter⟩
  simp only [labelStep, Bool.and_eq_true, decide_eq_true_eq, reaches_iff]
  constructor
  · rintro ⟨noHyphen, k, low, high, found⟩
    -- A label starts `k` characters before the last one, and everything before it is a series of labels.
    have inside : k < (s ++ [c]).length := by
      have := (List.getElem?_eq_some_iff.mp found).1
      simpa [length] using this
    obtain ⟨front, d, rest, whole, size⟩ := exists_place inside
    obtain ⟨series, opens⟩ := (startsAfter front d rest whole).mp (size ▸ found)
    rw [whole] at all ⊢
    have closes := getLast?_of_split (List.cons_ne_nil d rest) whole.symm
    refine append_label series (mem_labels.mpr ⟨fun x member => all x (List.mem_append_right _ member), ?_⟩)
    refine ⟨by simp; omega, by simp; omega, by simpa using opens, ?_⟩
    rw [closes]
    simpa using noHyphen
  · intro series
    obtain ⟨front, before, last, label, whole⟩ := exists_last_label (by simp) series
    obtain ⟨_, low, high, first, final⟩ := mem_labels.mp label
    obtain ⟨d, rest, rfl⟩ := List.exists_cons_of_ne_nil (List.ne_nil_of_length_pos (by omega : 0 < last.length))
    rw [getLast?_of_split (List.cons_ne_nil d rest) whole] at final
    rw [List.length_cons] at low high
    exact ⟨by simpa using final, rest.length, by omega, by omega,
      (startsAfter front d rest whole.symm).mpr ⟨before, by simpa using first⟩⟩

theorem foldl_bounds (all : ∀ x ∈ s, isLabelChar x = true) : Bounds s (s.foldl labelStep (true, [])) := by
  induction s using List.reverseRecOn with
  | nil => exact bounds_nil
  | append_singleton s c ih =>
    rw [List.foldl_append]
    exact (ih fun x member => all x (List.mem_append_left _ member)).step all

/-- The scan finds out whether a text is a series of labels. -/
theorem isLabelRun_iff : isLabelRun s = true ↔ s ≠ [] ∧ s ∈ labels∗ := by
  simp only [isLabelRun, Bool.and_eq_true, Bool.not_eq_true', List.isEmpty_eq_false_iff, List.all_eq_true]
  constructor
  · rintro ⟨⟨nonempty, all⟩, ends⟩
    exact ⟨nonempty, (foldl_bounds all).ends.mp ends⟩
  · rintro ⟨nonempty, series⟩
    have all := isLabelChar_of_mem_series series
    exact ⟨⟨nonempty, all⟩, (foldl_bounds all).ends.mpr series⟩

theorem label_run (label : w ∈ labels) : isLabelRun w = true := by
  have nonempty : w ≠ [] := List.ne_nil_of_length_pos (by have := (mem_labels.mp label).2.1; omega)
  exact isLabelRun_iff.mpr ⟨nonempty, by simpa using append_label (Language.nil_mem_kstar labels) label⟩

theorem run_append (first : isLabelRun s = true) (second : isLabelRun w = true) :
    isLabelRun (s ++ w) = true := by
  obtain ⟨nonempty, series⟩ := isLabelRun_iff.mp first
  refine isLabelRun_iff.mpr ⟨by simp [nonempty], ?_⟩
  rw [← kstar_mul_kstar]
  exact Language.append_mem_mul series (isLabelRun_iff.mp second).2

theorem no_dot (labelled : isLabelRun run = true) : '.' ∉ run := by
  intro member
  have inner := isLabelChar_of_mem_series (isLabelRun_iff.mp labelled).2 '.' member
  exact absurd inner (by decide)

theorem mem_optional_dot : tail ∈ letter '.' + 1 ↔ tail = ['.'] ∨ tail = [] := by
  rw [Language.mem_add, Language.mem_one]
  exact Iff.rfl

theorem append_domain {a b : List Char} (first : a ∈ domainNames) (second : b ∈ domainNames) :
    a ++ b ∈ domainNames := by
  have closed : domainNames * domainNames ≤ domainNames := calc
    pieces * pieces∗ * (pieces * pieces∗) = pieces * (pieces∗ * (pieces * pieces∗)) := mul_assoc ..
    _ ≤ pieces * (pieces∗ * pieces∗) := by gcongr; exact mul_kstar_le_kstar
    _ = pieces * pieces∗ := by rw [kstar_mul_kstar]
  exact closed (Language.append_mem_mul first second)

theorem run_domain (labelled : isLabelRun run = true) (ending : tail ∈ letter '.' + 1) :
    run ++ tail ∈ domainNames := by
  obtain ⟨nonempty, series⟩ := isLabelRun_iff.mp labelled
  obtain ⟨front, before, last, label, rfl⟩ := exists_last_label nonempty series
  have plain : labels ≤ pieces := by
    rw [pieces, mul_add, mul_one]
    exact le_add_self
  rw [domainNames, ← Language.mul_self_kstar_comm, List.append_assoc]
  exact Language.append_mem_mul (kstar_mono plain before) (Language.append_mem_mul label ending)

theorem runs_domain (nonempty : runs ≠ []) (labelled : ∀ run ∈ runs, isLabelRun run = true)
    (ending : tail ∈ letter '.' + 1) : ['.'].intercalate runs ++ tail ∈ domainNames := by
  induction runs with
  | nil => exact absurd rfl nonempty
  | cons run runs ih =>
    obtain ⟨here, later⟩ := List.forall_mem_cons.mp labelled
    cases runs with
    | nil => simpa using run_domain here ending
    | cons next runs =>
      have dotted : run ++ ['.'] ∈ domainNames := run_domain here (mem_optional_dot.mpr (.inl rfl))
      have rest := ih (List.cons_ne_nil next runs) later
      rw [List.intercalate_cons_cons, List.append_assoc]
      exact append_domain dotted rest

/-- What `runs` of labels, the dots between them and at most one dot after them make. -/
structure Runs (w : List Char) (runs : List (List Char)) (tail : List Char) : Prop where
  nonempty : runs ≠ []
  labelled : ∀ run ∈ runs, isLabelRun run = true
  ending : tail ∈ letter '.' + 1
  whole : w = ['.'].intercalate runs ++ tail

/-- A label before a name either goes into the first run of the name or is a run of its own. -/
theorem Runs.piece_append (made : Runs w runs tail) (first : s ∈ pieces) :
    ∃ runs', Runs (s ++ w) runs' tail := by
  obtain ⟨nonempty, labelled, ending, rfl⟩ := made
  obtain ⟨next, more, rfl⟩ := List.exists_cons_of_ne_nil nonempty
  obtain ⟨name, label, dot, optional, rfl⟩ := Language.mem_mul.mp first
  have run := label_run label
  rcases mem_optional_dot.mp optional with rfl | rfl
  · refine ⟨name :: next :: more, by simp, List.forall_mem_cons.mpr ⟨run, labelled⟩, ending, ?_⟩
    simp [List.intercalate_cons_cons]
  · obtain ⟨here, later⟩ := List.forall_mem_cons.mp labelled
    refine ⟨(name ++ next) :: more, by simp, List.forall_mem_cons.mpr ⟨run_append run here, later⟩, ending, ?_⟩
    cases more <;> simp [List.intercalate_cons_cons]

theorem runs_of_piece (only : w ∈ pieces) : ∃ runs tail, Runs w runs tail := by
  obtain ⟨name, label, dot, optional, rfl⟩ := Language.mem_mul.mp only
  exact ⟨[name], dot, by simp, by simpa using label_run label, optional, by simp⟩

theorem exists_runs (name : w ∈ domainNames) : ∃ runs tail, Runs w runs tail := by
  rw [domainNames, ← Language.mul_self_kstar_comm] at name
  obtain ⟨_, series, last, single, rfl⟩ := Language.mem_mul.mp name
  obtain ⟨front, rfl, all⟩ := Language.mem_kstar.mp series
  clear name series
  induction front with
  | nil => simpa using runs_of_piece single
  | cons first front ih =>
    obtain ⟨here, later⟩ := List.forall_mem_cons.mp all
    obtain ⟨runs, tail, made⟩ := ih later
    obtain ⟨runs', made'⟩ := made.piece_append here
    exact ⟨runs', tail, by simpa using made'⟩

theorem intercalate_concat_nil (nonempty : parts ≠ []) :
    ['.'].intercalate (parts ++ [[]]) = ['.'].intercalate parts ++ ['.'] := by
  induction parts with
  | nil => exact absurd rfl nonempty
  | cons part parts ih =>
    by_cases last : parts = []
    · simp [last]
    · rw [List.cons_append, List.intercalate_cons_of_ne_nil (by simp), ih last,
        List.intercalate_cons_of_ne_nil last, List.append_assoc _ _ ['.']]

/-- Cut at its dots, a name gives its runs, and one empty part more for a dot after them. -/
theorem Runs.splitOn (made : Runs w runs tail) :
    w.splitOn '.' = if tail = [] then runs else runs ++ [[]] := by
  obtain ⟨nonempty, labelled, ending, rfl⟩ := made
  have free : ∀ run ∈ runs, '.' ∉ run := fun run member => no_dot (labelled run member)
  rcases mem_optional_dot.mp ending with rfl | rfl
  · have freeLast : ∀ run ∈ runs ++ [[]], '.' ∉ run := by
      simpa [or_imp, forall_and] using free
    rw [← intercalate_concat_nil nonempty, List.splitOn_intercalate '.' freeLast (by simp)]
    simp
  · rw [List.append_nil, List.splitOn_intercalate '.' free nonempty]
    simp

/-- The runs that are looked at: the parts between dots, without an empty one that follows the last dot. -/
def runsOf (parts : List (List Char)) : List (List Char) :=
  if 1 < parts.length && parts.getLast? = some [] then parts.dropLast else parts

theorem isDomain_eq (s : String) : isDomain s = (runsOf (s.toList.splitOn '.')).all isLabelRun := rfl

theorem runsOf_concat_nil (nonempty : runs ≠ []) : runsOf (runs ++ [[]]) = runs := by
  have := List.length_pos_iff.mpr nonempty
  simp [runsOf, this]

theorem Runs.runsOf_splitOn (made : Runs w runs tail) : runsOf (w.splitOn '.') = runs := by
  rw [made.splitOn]
  split
  · have given : runs.getLast? ≠ some [] := by
      intro last
      have labelled := made.labelled [] (List.mem_of_getLast? last)
      exact absurd labelled (by decide)
    simp [runsOf, given]
  · exact runsOf_concat_nil made.nonempty

/-- Runs that are all made of labels can be put together again to a name. -/
theorem domain_of_runs (nonempty : parts ≠ []) (labelled : ∀ run ∈ runsOf parts, isLabelRun run = true) :
    ['.'].intercalate parts ∈ domainNames := by
  by_cases dotted : 1 < parts.length ∧ parts.getLast? = some []
  · obtain ⟨several, last⟩ := dotted
    obtain ⟨runs, rfl⟩ := List.getLast?_eq_some_iff.mp last
    have given : runs ≠ [] := by
      rintro rfl
      simp at several
    rw [runsOf_concat_nil given] at labelled
    rw [intercalate_concat_nil given]
    exact runs_domain given labelled (mem_optional_dot.mpr (.inl rfl))
  · have whole : runsOf parts = parts := by
      rw [runsOf, if_neg]
      simpa using dotted
    rw [whole] at labelled
    rw [← List.append_nil (['.'].intercalate parts)]
    exact runs_domain nonempty labelled (mem_optional_dot.mpr (.inr rfl))

/-- The cut at the dots, and the scan of each part, accept the names and nothing else. -/
theorem isDomain_iff (s : String) : isDomain s = true ↔ s.toList ∈ domainNames := by
  rw [isDomain_eq, List.all_eq_true]
  constructor
  · intro labelled
    have name := domain_of_runs (List.splitOn_ne_nil '.' s.toList) labelled
    rwa [List.intercalate_splitOn] at name
  · intro name
    obtain ⟨runs, tail, made⟩ := exists_runs name
    rw [made.runsOf_splitOn]
    exact made.labelled

theorem mem_many {ofClass : Char → Bool} : w ∈ many ofClass ↔ (∀ c ∈ w, ofClass c = true) ∧ w ≠ [] := Iff.rfl

theorem not_mem_many (digits : w ∈ many isDecimal) (other : isDecimal c = false) : c ∉ w := by
  intro member
  have := digits.1 c member
  simp [other] at this

theorem mem_joined {m : Language Char} :
    w ∈ l * letter c * m ↔ ∃ front ∈ l, ∃ back ∈ m, w = front ++ c :: back := by
  constructor
  · intro joined
    obtain ⟨_, before, back, after, rfl⟩ := Language.mem_mul.mp joined
    obtain ⟨front, first, _, single, rfl⟩ := Language.mem_mul.mp before
    obtain rfl := Set.mem_singleton_iff.mp single
    exact ⟨front, first, back, after, by simp⟩
  · rintro ⟨front, first, back, after, rfl⟩
    have joint : [c] ∈ letter c := Set.mem_singleton _
    simpa using Language.append_mem_mul (Language.append_mem_mul first joint) after

theorem mem_quads : w ∈ quads ↔
    ∃ parts, parts.length = 4 ∧ (∀ part ∈ parts, part ∈ many isDecimal) ∧ w = ['.'].intercalate parts := by
  simp only [quads, mem_joined]
  constructor
  · rintro ⟨_, ⟨_, ⟨first, ha, second, hb, rfl⟩, third, hc, rfl⟩, fourth, hd, rfl⟩
    exact ⟨[first, second, third, fourth], rfl, by simp [ha, hb, hc, hd], by simp⟩
  · rintro ⟨parts, four, all, rfl⟩
    obtain ⟨first, second, third, fourth, rfl⟩ := List.length_eq_four.mp four
    simp only [List.forall_mem_cons] at all
    obtain ⟨ha, hb, hc, hd, _⟩ := all
    exact ⟨_, ⟨_, ⟨first, ha, second, hb, rfl⟩, third, hc, rfl⟩, fourth, hd, by simp⟩

theorem looksDotted_iff (s : String) : Address.looksDotted s = true ↔ s.toList ∈ quads := by
  have looks : Address.looksDotted s = true ↔ (s.toList.splitOn '.').length = 4 ∧
      ∀ part ∈ s.toList.splitOn '.', part ∈ many isDecimal := by
    simp [Address.looksDotted, fields, mem_many, and_comm]
  rw [looks, mem_quads]
  constructor
  · rintro ⟨four, all⟩
    exact ⟨_, four, all, (List.intercalate_splitOn '.').symm⟩
  · rintro ⟨parts, four, all, whole⟩
    have given : parts ≠ [] := List.ne_nil_of_length_pos (by omega)
    have free : ∀ part ∈ parts, '.' ∉ part := fun part member => not_mem_many (all part member) (by decide)
    rw [whole, List.splitOn_intercalate '.' free given]
    exact ⟨four, all⟩

theorem isQuadCidr_iff (s : String) : isQuadCidr s = true ↔ s.toList ∈ quadCidrs := by
  rw [quadCidrs, mem_joined]
  constructor
  · intro quad
    simp only [isQuadCidr] at quad
    split at quad
    · next host length parts =>
      simp only [Bool.and_eq_true, looksDotted_iff] at quad
      obtain ⟨⟨dotted, given⟩, digits⟩ := quad
      have number : length.toList ∈ many isDecimal := mem_many.mpr ⟨by simpa using digits, by simpa using given⟩
      exact ⟨host.toList, dotted, length.toList, number, toList_of_fields parts⟩
    · cases quad
  · rintro ⟨host, dotted, length, digits, whole⟩
    obtain ⟨octets, _, all, rfl⟩ := mem_quads.mp dotted
    have noSlash : '/' ∉ ['.'].intercalate octets := by
      intro member
      rcases mem_intercalate member with dot | ⟨octet, among, inside⟩
      · cases dot
      · exact not_mem_many (all octet among) (by decide) inside
    have text : s = String.ofList (['.'].intercalate octets) ++ "/" ++ String.ofList length := by
      rw [← String.toList_inj, whole]
      simp
    have parts : fields '/' s = [String.ofList (['.'].intercalate octets), String.ofList length] := by
      rw [text]
      exact fields_pair rfl (by simpa using noSlash) (by simpa using not_mem_many digits (by decide))
    have looks : Address.looksDotted (String.ofList (['.'].intercalate octets)) = true :=
      (looksDotted_iff _).mpr (by simpa using dotted)
    simp only [isQuadCidr, parts, looks]
    simpa using And.comm.mp digits

/-- An address is taken for a domain name just where it is no address with a prefix length, has no colon and
is a name in full. -/
theorem classify_domain_iff (s : String) :
    classify s = .domain ↔ s.toList ∉ quadCidrs ∧ ':' ∉ s.toList ∧ s.toList ∈ domainNames := by
  rw [← isQuadCidr_iff, ← isDomain_iff, ← has_iff, classify]
  split
  · next quad => simp [quad]
  split
  · next colon => simp [colon]
  split
  · next quad colon name => simp [quad, colon, name]
  · next other => simp [other]

end AccessList.AddressKind
