import AccessList.Config.Section
import Mathlib.Data.List.Basic

/-! The scan for sections as a recursion on the lines. What a line gives hangs on the line and on the section
that is open before it, and it follows what the lines before gave. -/
namespace AccessList.Config

open Text

variable {keyword first : String} {opened : Option Header} {line : String} {more : List String}

def sectionsFrom (keyword : String) (opened : Option Header) : List String → List SectionLine
  | [] => []
  | line :: rest =>
    let scan := scanLine keyword { opened } line
    scan.found.toList ++ sectionsFrom keyword scan.opened rest

theorem scanLine_eq (keyword : String) (s : Scan) (line : String) :
    scanLine keyword s line =
      { opened := (scanLine keyword { opened := s.opened } line).opened
        found := s.found ++ (scanLine keyword { opened := s.opened } line).found } := by
  simp only [scanLine]
  split
  · simp
  split
  · simp
  · simp
  · split
    · split <;> simp
    · simp

theorem foldl_scanLine (keyword : String) (s : Scan) (lines : List String) :
    (lines.foldl (scanLine keyword) s).found.toList =
      s.found.toList ++ sectionsFrom keyword s.opened lines := by
  induction lines generalizing s with
  | nil => simp [sectionsFrom]
  | cons line lines ih =>
    rw [List.foldl_cons, ih, scanLine_eq]
    simp [sectionsFrom]

theorem sections_eq (keyword : String) (lines : List String) :
    sections keyword lines = sectionsFrom keyword none lines := by
  rw [sections, foldl_scanLine]
  simp

theorem scanLine_flush (flush : startsWith " " line = false) :
    scanLine keyword { opened } line = scanLine keyword {} line := by
  simp [scanLine, flush]

/-- Sections are local: from a line on that is not indented, the section before plays no part. -/
theorem sectionsFrom_append {before after : List String}
    (flush : ∀ line ∈ after.head?, startsWith " " line = false) :
    sectionsFrom keyword opened (before ++ after) =
      sectionsFrom keyword opened before ++ sectionsFrom keyword none after := by
  induction before generalizing opened with
  | nil =>
    cases after with
    | nil => rfl
    | cons line after => simp [sectionsFrom, scanLine_flush (flush line rfl)]
  | cons line before ih => simp [sectionsFrom, ih]

theorem scanLine_quiet (quiet : (words line).head? ≠ some keyword) : scanLine keyword {} line = {} := by
  simp only [scanLine]
  split
  · rfl
  split
  · simp
  · next header _ inside _ => simp at inside
  · next first more _ all =>
    have other : first ≠ keyword := by simpa [all] using quiet
    rw [if_neg other]

theorem sectionsFrom_quiet {lines : List String}
    (quiet : ∀ line ∈ lines, (words line).head? ≠ some keyword) : sectionsFrom keyword none lines = [] := by
  induction lines with
  | nil => rfl
  | cons line lines ih =>
    obtain ⟨here, later⟩ := List.forall_mem_cons.mp quiet
    simp [sectionsFrom, scanLine_quiet here, ih later]

theorem body_of_scanLine {h : Header} {tokens : List String}
    (found : .body h tokens ∈ (scanLine keyword { opened } line).found.toList) :
    opened = some h ∧ isSeparator line = false ∧ startsWith " " line = true ∧ words line = tokens ∧
      tokens ≠ [] := by
  simp only [scanLine] at found
  split at found
  · simp at found
  next plain =>
  split at found
  · simp at found
  · next header still given =>
    obtain ⟨rfl, rfl⟩ : h = header ∧ tokens = words line := by simpa using found
    have indented : startsWith " " line = true := by
      by_contra flush
      rw [if_neg flush] at still
      cases still
    rw [if_pos indented] at still
    exact ⟨still, by simpa using plain, indented, rfl, given⟩
  · -- without an open section there are headers at most
    split at found
    · split at found <;> simp at found
    · simp at found

theorem exists_line_of_body {h : Header} {tokens lines : List String}
    (found : .body h tokens ∈ sections keyword lines) : ∃ line ∈ lines, words line = tokens := by
  rw [sections_eq] at found
  generalize none = opened at found
  induction lines generalizing opened with
  | nil => cases found
  | cons line lines ih =>
    rcases List.mem_append.mp found with here | later
    · exact ⟨line, List.mem_cons_self, (body_of_scanLine here).2.2.2.1⟩
    · obtain ⟨line', among, same⟩ := ih _ later
      exact ⟨line', List.mem_cons_of_mem line among, same⟩

/-- An indented line that is no header leaves the open section as it is, and belongs to it. -/
theorem scanLine_indented (plain : isSeparator line = false) (indented : startsWith " " line = true)
    (tokens : words line = first :: more) (other : first ≠ keyword) :
    scanLine keyword { opened } line =
      { opened, found := (opened.toList.map fun h => SectionLine.body h (words line)).toArray } := by
  cases opened <;> simp [scanLine, plain, indented, tokens, other]

end AccessList.Config
