import AccessList.Proofs.Address.Compressed

/-! The zeros that a compressed address leaves out. Of the runs of zero groups it is one of the longest, and the
first of those, and it is left out if it has two groups or more. All other groups are written in base sixteen. -/
namespace AccessList

namespace Address.Hextets

open Text

variable {gs : List Nat} {parts : List String} {n : Nat}

/-- A group in base sixteen. -/
def digits (g : Nat) : String := String.ofList (Nat.toDigits 16 g)

theorem hexDigit_eq : ∀ n < 16, hexDigit n = Nat.digitChar n := by decide

theorem hexDigit_eq_zero : ∀ n < 16, hexDigit n = '0' → n = 0 := by decide

theorem hexDigits_zero (count : Nat) : hexDigits count 0 = List.replicate count '0' := by
  induction count with
  | zero => rfl
  | succ count ih =>
    rw [hexDigits, ih, List.replicate_succ']
    rfl

theorem dropZeros_hexDigits {count : Nat} (positive : 0 < n) (small : n < 16 ^ count) :
    (hexDigits count n).dropWhile (· = '0') = Nat.toDigits 16 n := by
  induction count generalizing n with
  | zero => omega
  | succ count ih =>
    have digit := hexDigit_eq (n % 16) (Nat.mod_lt n (by decide))
    rw [hexDigits]
    by_cases single : n < 16
    · have other : hexDigit n ≠ '0' := mt (hexDigit_eq_zero n single) positive.ne'
      rw [Nat.div_eq_of_lt single, Nat.mod_eq_of_lt single, hexDigits_zero, Nat.toDigits_of_lt_base single,
        ← hexDigit_eq n single, List.dropWhile_append_of_pos (by simp)]
      simp [other]
    · have more : 16 ≤ n := Nat.le_of_not_lt single
      have rest := ih (n := n / 16) (by omega) (by rw [Nat.pow_succ] at small; omega)
      have given : (Nat.toDigits 16 (n / 16)).isEmpty = false := by simp
      rw [List.dropWhile_append, rest, given, if_neg Bool.false_ne_true, digit,
        Nat.toDigits_of_base_le (by decide) more]

theorem short_eq (small : n < 0x10000) : short n = digits n := by
  rw [short, digits]
  rcases Nat.eq_zero_or_pos n with rfl | positive
  · rw [hexDigits_zero, Nat.toDigits_zero]
    rfl
  · rw [dropZeros_hexDigits positive small]
    split
    · next none => exact absurd none Nat.toDigits_ne_nil
    · rfl

theorem map_short (small : ∀ g ∈ gs, g < 0x10000) : gs.map short = gs.map digits :=
  List.map_congr_left fun g member => short_eq (small g member)

theorem splitGap_ne_none (a b : List Char) : splitGap (a ++ ':' :: ':' :: b) ≠ none := by
  induction a with
  | nil => simp [splitGap]
  | cons c a ih =>
    rw [List.cons_append]
    unfold splitGap
    split
    · exact Option.some_ne_none _
    · next none => cases none
    · next same =>
      cases same
      simpa using ih

theorem ArePieces.no_gap (pieces : ArePieces parts) : ¬ "::".toList <:+: (":".intercalate parts).toList := by
  rintro ⟨a, b, split⟩
  have none : splitGap (":".intercalate parts).toList = none := by
    simpa [splitGap] using pieces.splitGap_eq []
  rw [← split] at none
  exact splitGap_ne_none a b (by simpa using none)

/-- What a double colon stands for, and how the rest is written. -/
theorem withGap_eq (small : ∀ g ∈ gs, g < 0x10000) {tail : List String} (pieces : ArePieces tail) :
    ∃ before length after, IsLongestRun gs before length after ∧
      if 2 ≤ length then
        withGap gs tail = ":".intercalate (before.map digits) ++ "::" ++ ":".intercalate (after.map digits ++ tail)
      else
        withGap gs tail = ":".intercalate (gs.map digits ++ tail) ∧ ¬ "::".toList <:+: (withGap gs tail).toList := by
  refine ⟨_, _, _, isLongestRun gs, ?_⟩
  have high := map_short fun g member => small g (List.mem_of_mem_take (i := (longestRun gs).start) member)
  have low := map_short fun g member =>
    small g (List.mem_of_mem_drop (i := (longestRun gs).start + (longestRun gs).length) member)
  rw [withGap]
  dsimp only
  split
  · rw [high, low]
  · refine ⟨by rw [map_short small], ?_⟩
    exact ((spellsGroups_short.pieces small).append pieces).no_gap

/-- The groups that are written as such, where the last two may be a dotted quad. -/
def hextets (quad : Bool) (a : Address .v6) : List Nat := if quad then (groups a).take 6 else groups a

def tailOf (quad : Bool) (a : Address .v6) : List String := if quad then [quadTail a] else []

theorem compressed_eq (quad : Bool) (a : Address .v6) :
    compressed quad a = withGap (hextets quad a) (tailOf quad a) := by
  cases quad <;> simp [compressed, hextets, tailOf]

theorem hextets_small (quad : Bool) (a : Address .v6) : ∀ g ∈ hextets quad a, g < 0x10000 := by
  cases quad with
  | false => exact groups_small a
  | true => exact fun g member => groups_small a g (List.mem_of_mem_take member)

theorem pieces_tailOf (quad : Bool) (a : Address .v6) : ArePieces (tailOf quad a) := by
  cases quad with
  | false => exact ⟨by simp [tailOf], by simp [tailOf]⟩
  | true => exact pieces_quadTail a

end Address.Hextets

namespace Address

open Text Hextets

variable {s : String} {a : Address .v6}

/-- Every text that spells an address has a compressed form. It leaves out the first of the longest runs of zero
groups if that has two groups or more, and nothing otherwise. The other groups are written in order, in base sixteen,
and a dotted tail stands for the last two. -/
theorem compress_leaves_first_longest (spells : Hextets.read? s = some a) :
    ∃ c before length after, compress? s = some c ∧ IsLongestRun (hextets (has '.' s) a) before length after ∧
      if 2 ≤ length then
        c = ":".intercalate (before.map digits) ++ "::" ++ ":".intercalate (after.map digits ++ tailOf (has '.' s) a)
      else
        c = ":".intercalate ((hextets (has '.' s) a).map digits ++ tailOf (has '.' s) a) ∧
          ¬ "::".toList <:+: c.toList := by
  obtain ⟨before, length, after, run, form⟩ :=
    withGap_eq (hextets_small (has '.' s) a) (pieces_tailOf (has '.' s) a)
  refine ⟨compressed (has '.' s) a, before, length, after, ?_, run, ?_⟩
  · rw [compress?_eq, spells, Option.map_some]
  · rw [compressed_eq]
    exact form

/-- Of two runs of the same length the first is left out. -/
theorem compress_leaves_first_longest_tie :
    let s := "2001:DB8:0:0:1:0:0:01"
    let a : Address .v6 := 0x20010db8000000000001000000000001
    Hextets.read? s = some a ∧ ∃ before length after,
      IsLongestRun [0x2001, 0xdb8, 0, 0, 1, 0, 0, 1] before length after ∧ 2 ≤ length ∧
        "2001:db8::1:0:0:1" = ":".intercalate (before.map digits) ++ "::" ++ ":".intercalate (after.map digits) := by
  intro s a
  have spells : Hextets.read? s = some a := by decide +kernel
  have plain : has '.' s = false := by decide +kernel
  have eight : hextets false a = [0x2001, 0xdb8, 0, 0, 1, 0, 0, 1] := by decide +kernel
  have compressed : compress? s = some "2001:db8::1:0:0:1" := by decide +kernel
  obtain ⟨c, before, length, after, written, run, form⟩ := compress_leaves_first_longest spells
  rw [plain, eight] at run
  have two : 2 ≤ length := run.longest [0x2001, 0xdb8] 2 [1, 0, 0, 1] rfl
  obtain rfl : "2001:db8::1:0:0:1" = c := Option.some.inj (compressed.symm.trans written)
  rw [if_pos two, plain, tailOf, if_neg (by decide), List.append_nil] at form
  exact ⟨spells, before, length, after, run, two, form⟩

end Address
end AccessList
