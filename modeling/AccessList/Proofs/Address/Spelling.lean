import AccessList.Proofs.Text.Fields
import AccessList.Address.Cidr
import Mathlib.Tactic.Ring

/-! Accepted spellings of addresses. Their characters tell the families apart, and the full form of an
address of version 6 is a spelling of that address. -/
namespace AccessList.Address

open Text

namespace Dotted

theorem isDecimal_of_isAsciiDigit {c : Char} (h : isAsciiDigit c = true) : isDecimal c = true := by
  simp only [isAsciiDigit, Bool.and_eq_true, decide_eq_true_eq, Char.le_def] at h
  have lower : 0x30 ≤ c.toNat := h.1
  have upper : c.toNat ≤ 0x39 := h.2
  have first : (decide (0x30 ≤ c.toNat) && decide (c.toNat < 0x30 + 10)) = true := by
    simp only [Bool.and_eq_true, decide_eq_true_eq]
    omega
  simp [isDecimal, digitValue?, zeros, first]

theorem octet?_chars {s : String} {n : Nat} (h : octet? s = some n) :
    ∀ c ∈ s.toList, isAsciiDigit c = true := by
  unfold octet? at h
  simp only at h
  split at h
  · cases h
  · next plain =>
    have digits : s.toList.all isAsciiDigit = true := by simp_all
    exact List.all_eq_true.mp digits

theorem looksDotted_of_read? {s : String} {a : Address .v4} (h : read? s = some a) :
    looksDotted s = true := by
  unfold read? at h
  split at h
  · next all =>
    have four : (fields '.' s).length = 4 := by simpa using (length_of_mapM all).symm
    have parts (part : String) (among : part ∈ fields '.' s) :
        (!part.isEmpty && part.toList.all isDecimal) = true := by
      obtain ⟨n, octet⟩ := exists_of_mapM all among
      have digits : part.toList.all isDecimal = true :=
        List.all_eq_true.mpr fun c inside => isDecimal_of_isAsciiDigit (octet?_chars octet c inside)
      have nonempty : part ≠ "" := by
        rintro rfl
        simp [show octet? "" = none by decide] at octet
      simp [nonempty, digits]
    simp [looksDotted, four, List.all_eq_true.mpr parts]
  · cases h

theorem read?_chars {s : String} {a : Address .v4} (h : read? s = some a) :
    ∀ c ∈ s.toList, isAsciiDigit c = true ∨ c = '.' := by
  unfold read? at h
  split at h
  · next octets all =>
    intro c member
    rcases mem_fields '.' member with dot | ⟨part, among, inside⟩
    · exact .inr dot
    · obtain ⟨n, read⟩ := exists_of_mapM all among
      exact .inl (octet?_chars read c inside)
  · cases h

end Dotted

namespace Hextets

def isSpellingChar (c : Char) : Bool := (hexValue? c).isSome || c == ':' || c == '.'

theorem isSpellingChar_of_digit {c : Char} (h : Dotted.isAsciiDigit c = true) : isSpellingChar c = true := by
  have digit : hexValue? c = some (c.toNat - 0x30) := by
    simp only [Dotted.isAsciiDigit] at h
    simp [hexValue?, h]
  simp [isSpellingChar, digit]

theorem group?_chars {s : String} {n : Nat} (h : group? s = some n) :
    ∀ c ∈ s.toList, isSpellingChar c = true := by
  unfold group? at h
  simp only at h
  split at h
  · cases h
  · obtain ⟨values, all, _⟩ := Option.map_eq_some_iff.mp h
    intro c member
    obtain ⟨value, read⟩ := exists_of_mapM all member
    simp [isSpellingChar, read]

theorem groupsOf?_chars {parts : List String} {gs : List Nat} (h : groupsOf? parts = some gs) :
    ∀ part ∈ parts, ∀ c ∈ part.toList, isSpellingChar c = true := by
  fun_induction groupsOf? parts generalizing gs with
  | case1 => simp
  | case2 s dotted =>
    obtain ⟨a, read, _⟩ := Option.map_eq_some_iff.mp h
    intro part among c inside
    obtain rfl := List.mem_singleton.mp among
    rcases Dotted.read?_chars read c inside with digit | rfl
    · exact isSpellingChar_of_digit digit
    · rfl
  | case3 s plain =>
    obtain ⟨g, read, _⟩ := Option.map_eq_some_iff.mp h
    intro part among
    obtain rfl := List.mem_singleton.mp among
    exact group?_chars read
  | case4 s rest more ih =>
    simp only [Option.bind_eq_bind, Option.bind_eq_some_iff] at h
    obtain ⟨g, read, others, readRest, _⟩ := h
    intro part among
    rcases List.mem_cons.mp among with rfl | later
    · exact group?_chars read
    · exact ih readRest part later

/-- Only the last part may stand for two groups. -/
theorem groupsOf?_length {parts : List String} {gs : List Nat} (h : groupsOf? parts = some gs) :
    gs.length ≤ parts.length + 1 := by
  fun_induction groupsOf? parts generalizing gs with
  | case1 => simp_all
  | case2 s dotted =>
    obtain ⟨a, read, rfl⟩ := Option.map_eq_some_iff.mp h
    simp
  | case3 s plain =>
    obtain ⟨g, read, rfl⟩ := Option.map_eq_some_iff.mp h
    simp
  | case4 s rest more ih =>
    simp only [Option.bind_eq_bind, Option.bind_eq_some_iff] at h
    obtain ⟨g, read, others, readRest, whole⟩ := h
    obtain rfl : g :: others = gs := by simpa using whole
    simpa using ih readRest

theorem eq_of_splitGap {s a b : List Char} (h : splitGap s = some (a, b)) : s = a ++ ':' :: ':' :: b := by
  fun_induction splitGap s generalizing a with
  | case1 s => simp_all
  | case2 => cases h
  | case3 c s other ih =>
    obtain ⟨⟨x, y⟩, found, eq⟩ := Option.map_eq_some_iff.mp h
    simp only [Prod.mk.injEq] at eq
    obtain ⟨rfl, rfl⟩ := eq
    simp [ih found]

theorem side?_chars {s : String} {gs : List Nat} (h : side? s = some gs) :
    ∀ c ∈ s.toList, isSpellingChar c = true := by
  unfold side? at h
  split at h
  · next empty => simp [String.isEmpty_iff.mp empty]
  · intro c member
    rcases mem_fields ':' member with rfl | ⟨part, among, inside⟩
    · rfl
    · exact groupsOf?_chars h part among c inside

theorem spelled?_chars {s : String} {a : Address .v6} (h : spelled? s = some a) :
    ':' ∈ s.toList ∧ ∀ c ∈ s.toList, isSpellingChar c = true := by
  unfold spelled? at h
  split at h
  · obtain ⟨gs, read, eight⟩ := Option.bind_eq_some_iff.mp h
    constructor
    · by_contra absent
      rw [fields_eq_singleton absent] at read
      have few := groupsOf?_length read
      split at eight
      · next full => simp [full] at few
      · cases eight
    · intro c member
      rcases mem_fields ':' member with rfl | ⟨part, among, inside⟩
      · rfl
      · exact groupsOf?_chars read part among c inside
  · next high low gap =>
    have whole := eq_of_splitGap gap
    split at h
    · simp at h
    simp only [Option.bind_eq_bind, Option.bind_eq_some_iff] at h
    obtain ⟨front, readHigh, back, readLow, _⟩ := h
    refine ⟨by simp [whole], ?_⟩
    intro c member
    rw [whole] at member
    simp only [List.mem_append, List.mem_cons] at member
    rcases member with inHigh | rfl | rfl | inLow
    · exact side?_chars readHigh c (by simpa using inHigh)
    · rfl
    · rfl
    · exact side?_chars readLow c (by simpa using inLow)

theorem read?_chars {s : String} {a : Address .v6} (h : read? s = some a) :
    ':' ∈ s.toList ∧ ∀ c ∈ s.toList, isSpellingChar c = true :=
  spelled?_chars (Option.filter_eq_some_iff.mp h).1

end Hextets

theorem not_mem_of_spelling {f : Family} {s : String} {a : Address f} {c : Char}
    (read : f.read? s = some a) (other : Hextets.isSpellingChar c = false) : c ∉ s.toList := by
  intro member
  have spelling : Hextets.isSpellingChar c = true := by
    cases f with
    | v4 =>
      rcases Dotted.read?_chars read c member with digit | rfl
      · exact Hextets.isSpellingChar_of_digit digit
      · rfl
    | v6 => exact (Hextets.read?_chars read).2 c member
  simp [other] at spelling

/-- A colon tells the families apart. -/
theorem colon_mem_iff {f : Family} {s : String} {a : Address f} (read : f.read? s = some a) :
    ':' ∈ s.toList ↔ f = .v6 := by
  cases f with
  | v4 =>
    simp only [reduceCtorEq, iff_false]
    intro member
    rcases Dotted.read?_chars read ':' member with digit | dot
    · simp [show Dotted.isAsciiDigit ':' = false by decide] at digit
    · cases dot
  | v6 => simpa using (Hextets.read?_chars read).1

end AccessList.Address
