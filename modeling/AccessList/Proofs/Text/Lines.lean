import AccessList.Text.Blank
import AccessList.Text.Lines
import Mathlib.Data.List.DropRight

/-! The lines that are not empty. Whichever of its forms a line end has, they are what stands between the
characters that occur in line ends, so that they can be told for the parts of a text one by one. All lines can
be told so where a line feed stands between the parts. A trimmed line is told by the first of its characters. -/
namespace AccessList.Text

def lineEnds : List String := ["\n", "\r", "\r\n"]

def isLineEnd (c : Char) : Bool := c = '\n' || c = '\r'

def fullLines (s : String) : List String := (lines s).filter (!·.isEmpty)

/-- Reading from the end, the first line is the same with unified line ends and at all their characters. The
later lines are so up to empty ones, and the first is empty where a line feed waits for a carriage return. -/
theorem splitOn_unifyStep (s : List Char) : ∃ first later pieces,
    (s.foldr unifyStep ([], false)).1.splitOn '\n' = first :: later ∧
      s.splitOnP isLineEnd = first :: pieces ∧
      later.filter (!·.isEmpty) = pieces.filter (!·.isEmpty) ∧
      ((s.foldr unifyStep ([], false)).2 = true → first = []) := by
  induction s with
  | nil => exact ⟨[], [], [], by simp⟩
  | cons c s ih =>
    obtain ⟨first, later, pieces, unified, split, same, waiting⟩ := ih
    rw [List.foldr_cons]
    generalize s.foldr unifyStep ([], false) = after at unified waiting
    by_cases carriage : c = '\r'
    · have here : (c :: s).splitOnP isLineEnd = [] :: first :: pieces := by
        rw [List.splitOnP_cons_eq_if_modifyHead, split]
        simp [isLineEnd, carriage]
      by_cases feed : after.2 = true
      · obtain rfl := waiting feed
        exact ⟨[], later, [] :: pieces, by simp [unifyStep, carriage, feed, unified], here, by simp [same],
          fun _ => rfl⟩
      · refine ⟨[], first :: later, first :: pieces, ?_, here, by simp [List.filter_cons, same], fun _ => rfl⟩
        simp [unifyStep, carriage, feed, List.splitOn_cons_eq_if_modifyHead, unified]
    · by_cases feed : c = '\n'
      · refine ⟨[], first :: later, first :: pieces, ?_, ?_, by simp [List.filter_cons, same], fun _ => rfl⟩
        · simp [unifyStep, feed, List.splitOn_cons_eq_if_modifyHead, unified]
        · rw [List.splitOnP_cons_eq_if_modifyHead, split]
          simp [isLineEnd, feed]
      · refine ⟨c :: first, later, pieces, ?_, ?_, same, ?_⟩
        · simp [unifyStep, carriage, feed, List.splitOn_cons_eq_if_modifyHead, unified]
        · rw [List.splitOnP_cons_eq_if_modifyHead, split]
          simp [isLineEnd, carriage, feed]
        · simp [unifyStep, carriage, feed]

theorem fullLines_eq (s : String) :
    fullLines s = ((s.toList.splitOnP isLineEnd).filter (!·.isEmpty)).map String.ofList := by
  obtain ⟨first, later, pieces, unified, split, same, _⟩ := splitOn_unifyStep s.toList
  have filtered (parts : List (List Char)) :
      (parts.map String.ofList).filter (!·.isEmpty) = (parts.filter (!·.isEmpty)).map String.ofList := by
    rw [List.filter_map]
    congr 1
    apply List.filter_congr
    intro part _
    cases part <;> simp [String.isEmpty_iff]
  rw [fullLines, lines, unifyLineEnds, unified, split, filtered, List.filter_cons, List.filter_cons, same]

/-- A line end adds no line but an empty one, also where it stands after or before a character of another. -/
theorem fullLines_append {newline : String} (ends : newline ∈ lineEnds) (first second : String) :
    fullLines (first ++ newline ++ second) = fullLines first ++ fullLines second := by
  have pieces : ((first.toList ++ newline.toList ++ second.toList).splitOnP isLineEnd).filter (!·.isEmpty) =
      (first.toList.splitOnP isLineEnd).filter (!·.isEmpty) ++
        (second.toList.splitOnP isLineEnd).filter (!·.isEmpty) := by
    have ended {c : Char} (ends : isLineEnd c = true) (a b : List Char) :=
      List.splitOnP_append_cons (p := isLineEnd) a b ends
    simp only [lineEnds, List.mem_cons, List.not_mem_nil, or_false] at ends
    rcases ends with rfl | rfl | rfl
    · simp [ended (c := '\n') rfl]
    · simp [ended (c := '\r') rfl]
    · have feed : ('\n' :: second.toList).splitOnP isLineEnd = [] :: second.toList.splitOnP isLineEnd := by
        simpa using ended (c := '\n') rfl [] second.toList
      simp [ended (c := '\r') rfl, feed]
  rw [fullLines_eq, fullLines_eq, fullLines_eq, String.toList_append, String.toList_append, pieces,
    List.map_append]

theorem foldr_unifyStep_append (s first rest : List Char) (feed : Bool) :
    s.foldr unifyStep (first ++ rest, feed) =
      ((s.foldr unifyStep (first, feed)).1 ++ rest, (s.foldr unifyStep (first, feed)).2) := by
  induction s with
  | nil => rfl
  | cons c s ih =>
    rw [List.foldr_cons, ih, List.foldr_cons, unifyStep, unifyStep]
    split
    · split <;> rfl
    · rfl

/-- A line feed between two texts ends a line of its own, unless a carriage return stands before it. -/
theorem unifyLineEnds_join {first : List Char} (whole : first.getLast? ≠ some '\r') (second : List Char) :
    unifyLineEnds (first ++ '\n' :: second) = unifyLineEnds first ++ '\n' :: unifyLineEnds second := by
  simp only [unifyLineEnds, List.foldr_append, List.foldr_cons]
  generalize second.foldr unifyStep ([], false) = after
  rcases List.eq_nil_or_concat first with rfl | ⟨init, c, rfl⟩
  · rfl
  · have other : c ≠ '\r' := by simpa using whole
    simp only [List.concat_eq_append, List.foldr_append, List.foldr_cons, List.foldr_nil, unifyStep, if_neg other]
    exact congrArg Prod.fst (foldr_unifyStep_append init [c] ('\n' :: after.1) (c = '\n'))

theorem lines_join {first : String} (whole : first.toList.getLast? ≠ some '\r') (second : String) :
    lines (first ++ "\n" ++ second) = lines first ++ lines second := by
  have joined : (first ++ "\n" ++ second).toList = first.toList ++ '\n' :: second.toList := by simp
  rw [lines, joined, unifyLineEnds_join whole, List.splitOn, List.splitOnP_append_cons _ _ (by decide),
    List.map_append]
  rfl

theorem head?_trimChars (s : List Char) : (trimChars s).head? = (s.dropWhile isBlank).head? := by
  change ((s.dropWhile isBlank).rdropWhile isBlank).head? = _
  cases start : s.dropWhile isBlank with
  | nil => simp
  | cons c later =>
    have visible : isBlank c = false := by simpa [start] using List.head?_dropWhile_not isBlank s
    cases kept : (c :: later).rdropWhile isBlank with
    | nil =>
      have blank := List.rdropWhile_eq_nil_iff.mp kept c List.mem_cons_self
      exact absurd blank (Bool.eq_false_iff.mp visible)
    | cons d earlier =>
      have begins := kept ▸ List.rdropWhile_prefix isBlank (l := c :: later)
      exact congrArg some (List.cons_prefix_cons.mp begins).1

end AccessList.Text
