import AccessList.Proofs.Text.Lines
import AccessList.Text.Cut

/-! Words at the head of a line. A word is told from what follows it by the white space after it, and a needle
without white space that occurs in a line occurs in one of its words. -/
namespace AccessList.Text

/-- A text that is one word: there is something in it, and no white space. -/
structure IsWord (w : String) : Prop where
  given : w ≠ ""
  solid : ∀ c ∈ w.toList, isBlank c = false

instance (w : String) : Decidable (IsWord w) :=
  decidable_of_iff (w ≠ "" ∧ w.toList.all (!isBlank ·))
    ⟨fun ⟨given, solid⟩ => ⟨given, by simpa using solid⟩, fun word => ⟨word.given, by simpa using word.solid⟩⟩

variable {w a b line : String} {c blank : Char} {s word needle rest : List Char}

theorem words_eq (chars : line.toList = s) :
    words line = ((s.splitOnP isBlank).filter (!·.isEmpty)).map String.ofList := by
  rw [words, chars]

theorem isBlank_of_isLineEnd (ends : isLineEnd c = true) : isBlank c = true := by
  simp only [isLineEnd, Bool.or_eq_true, decide_eq_true_eq] at ends
  rcases ends with rfl | rfl <;> decide

theorem IsWord.oneLine (word : IsWord w) : ∀ c ∈ w.toList, isLineEnd c = false := by
  intro c member
  apply Bool.eq_false_iff.mpr
  intro ends
  exact absurd (isBlank_of_isLineEnd ends) (Bool.eq_false_iff.mp (word.solid c member))

theorem words_cons (word : IsWord w) (white : isBlank blank = true)
    (chars : line.toList = w.toList ++ blank :: rest) : words line = w :: words (String.ofList rest) := by
  have given : w.toList ≠ [] := by simpa using word.given
  rw [words_eq chars, List.splitOnP_append_cons _ _ white, List.splitOnP_eq_singleton word.solid]
  simp [words, given]

theorem words_ne_nil (chars : line.toList = c :: rest) (plain : isBlank c = false) : words line ≠ [] := by
  rw [words_eq chars, List.splitOnP_cons_eq_if_modifyHead, plain]
  cases later : rest.splitOnP isBlank with
  | nil => exact absurd later (List.splitOnP_ne_nil isBlank rest)
  | cons part others => simp

theorem unifyLineEnds_plain (plain : ∀ c ∈ s, isLineEnd c = false) : unifyLineEnds s = s := by
  unfold unifyLineEnds
  induction s with
  | nil => rfl
  | cons c s ih =>
    obtain ⟨here, later⟩ := List.forall_mem_cons.mp plain
    have noCarriage : c ≠ '\r' := by
      rintro rfl
      exact absurd here (by decide)
    rw [List.foldr_cons, unifyStep, if_neg noCarriage, ih later]

theorem lines_plain (plain : ∀ c ∈ line.toList, isLineEnd c = false) : lines line = [line] := by
  have noFeed : '\n' ∉ line.toList := fun member => absurd (plain _ member) (by decide)
  rw [lines, unifyLineEnds_plain plain, List.splitOn_eq_singleton noFeed]
  simp

/-- A needle does not go beyond a character that it does not have. -/
theorem prefix_of_prefix_append (free : c ∉ needle) (starts : needle <+: word ++ c :: rest) : needle <+: word := by
  rcases List.prefix_or_prefix_of_prefix starts (List.prefix_append word (c :: rest)) with inside | beyond
  · exact inside
  · obtain ⟨more, rfl⟩ := beyond
    rw [List.prefix_append_right_inj] at starts
    cases more with
    | nil => simp
    | cons d more =>
      obtain ⟨rfl, _⟩ := List.cons_prefix_cons.mp starts
      exact absurd (List.mem_append_right word List.mem_cons_self) free

theorem afterFirst_start (needle rest : List Char) : afterFirst needle (needle ++ rest) = some rest := by
  cases needle with
  | nil => cases rest <;> simp [afterFirst]
  | cons d needle =>
    have starts : (d :: needle).isPrefixOf (d :: (needle ++ rest)) = true :=
      List.isPrefixOf_iff_prefix.mpr (List.prefix_append (d :: needle) rest)
    rw [List.cons_append, afterFirst, if_pos starts, ← List.cons_append, List.drop_left]

theorem afterFirst_later (elsewhere : ¬ needle <+: c :: s) : afterFirst needle (c :: s) = afterFirst needle s := by
  rw [afterFirst, if_neg (mt List.isPrefixOf_iff_prefix.mp elsewhere)]

theorem afterFirst_pass (nonempty : needle ≠ []) (free : c ∉ needle) (absent : ¬ needle <:+: word)
    (rest : List Char) : afterFirst needle (word ++ c :: rest) = afterFirst needle rest := by
  induction word with
  | nil =>
    apply afterFirst_later
    intro starts
    have within : needle <+: [] := prefix_of_prefix_append free starts
    exact nonempty (List.prefix_nil.mp within)
  | cons d word ih =>
    rw [List.infix_cons_iff, not_or] at absent
    rw [List.cons_append, afterFirst_later, ih absent.2]
    intro starts
    have within : needle <+: d :: word := prefix_of_prefix_append free starts
    exact absent.1 within

/-- A needle that occurs in a word is found there. -/
theorem afterFirst_inside (present : needle <:+: word) (rest : List Char) :
    ∃ more, afterFirst needle (word ++ rest) = some (more ++ rest) := by
  induction word with
  | nil =>
    obtain rfl := List.infix_nil.mp present
    exact ⟨[], afterFirst_start [] rest⟩
  | cons d word ih =>
    by_cases starts : needle <+: d :: word ++ rest
    · have within : needle <+: d :: word :=
        List.prefix_of_prefix_length_le starts (List.prefix_append (d :: word) rest) present.length_le
      obtain ⟨more, whole⟩ := within
      refine ⟨more, ?_⟩
      rw [← whole, List.append_assoc, afterFirst_start]
    · rcases List.infix_cons_iff.mp present with here | later
      · exact absurd (here.trans (List.prefix_append (d :: word) rest)) starts
      · rw [List.cons_append] at starts ⊢
        rw [afterFirst_later starts]
        exact ih later

end AccessList.Text
