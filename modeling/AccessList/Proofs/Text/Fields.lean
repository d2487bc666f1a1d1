import AccessList.Text.Cut
import Mathlib.Data.List.Basic

/-! Cuts and fields undo joins, as long as the separator stands in no part that is joined. -/
namespace AccessList.Text

theorem exists_of_mapM {α β : Type} {f : α → Option β} {xs : List α} {ys : List β} {x : α}
    (all : xs.mapM f = some ys) (member : x ∈ xs) : ∃ y, f x = some y := by
  induction xs generalizing ys with
  | nil => simp at member
  | cons first rest ih =>
    simp only [List.mapM_cons, Option.bind_eq_bind, Option.bind_eq_some_iff] at all
    obtain ⟨y, read, others, readRest, _⟩ := all
    rcases List.mem_cons.mp member with rfl | later
    · exact ⟨y, read⟩
    · exact ih readRest later

theorem exists_mapM {α β : Type} {f : α → Option β} {xs : List α} (all : ∀ x ∈ xs, ∃ y, f x = some y) :
    ∃ ys, xs.mapM f = some ys := by
  induction xs with
  | nil => exact ⟨[], rfl⟩
  | cons first rest ih =>
    obtain ⟨⟨y, here⟩, later⟩ := List.forall_mem_cons.mp all
    obtain ⟨ys, others⟩ := ih later
    exact ⟨y :: ys, by simp [here, others]⟩

variable {sep c : Char} {s a b joint : String} {parts : List String}

theorem length_of_mapM {α β : Type} {f : α → Option β} {xs : List α} {ys : List β}
    (all : xs.mapM f = some ys) : ys.length = xs.length := by
  induction xs generalizing ys with
  | nil => simp_all
  | cons first rest ih =>
    simp only [List.mapM_cons, Option.bind_eq_bind, Option.bind_eq_some_iff] at all
    obtain ⟨y, _, others, readRest, whole⟩ := all
    obtain rfl : y :: others = ys := by simpa using whole
    simp [ih readRest]

theorem has_iff : has c s = true ↔ c ∈ s.toList := by simp [has]

theorem cut_eq_none : cut sep s = none ↔ has sep s = false := by
  simp [cut, has, cutChars_eq_none]

theorem cut_join (single : joint.toList = [sep]) (free : sep ∉ a.toList) :
    cut sep (a ++ joint ++ b) = some (a, b) := by
  have joined : (a ++ joint ++ b).toList = a.toList ++ sep :: b.toList := by simp [single]
  rw [cut, joined, cutChars_append b.toList free]
  simp

theorem mem_join (single : joint.toList = [sep]) :
    c ∈ (a ++ joint ++ b).toList ↔ c ∈ a.toList ∨ c = sep ∨ c ∈ b.toList := by
  simp [single]

theorem mem_join_self (single : joint.toList = [sep]) : sep ∈ (a ++ joint ++ b).toList :=
  (mem_join single).mpr (.inr (.inl rfl))

/-- A cut is one way only to see a text as two parts around a separator. -/
theorem eq_of_cut (h : cut sep s = some (a, b)) :
    s.toList = a.toList ++ sep :: b.toList ∧ sep ∉ a.toList := by
  obtain ⟨⟨x, y⟩, found, eq⟩ := Option.map_eq_some_iff.mp h
  obtain ⟨split, free⟩ := eq_of_cutChars found
  simp only [Prod.mk.injEq] at eq
  obtain ⟨rfl, rfl⟩ := eq
  simpa using ⟨split, free⟩

theorem join_of_cut (single : joint.toList = [sep]) (h : cut sep s = some (a, b)) :
    s = a ++ joint ++ b := by
  rw [← String.toList_inj]
  simp [(eq_of_cut h).1, single]

theorem fields_join (single : joint.toList = [sep]) (free : ∀ part ∈ parts, sep ∉ part.toList)
    (nonempty : parts ≠ []) : fields sep (joint.intercalate parts) = parts := by
  have chars : ∀ part ∈ parts.map String.toList, sep ∉ part := by simpa using free
  rw [fields, String.toList_intercalate, single,
    List.splitOn_intercalate sep chars (by simpa using nonempty)]
  simp

theorem fields_pair (single : joint.toList = [sep]) (freeLeft : sep ∉ a.toList)
    (freeRight : sep ∉ b.toList) : fields sep (a ++ joint ++ b) = [a, b] := by
  have joined : a ++ joint ++ b = joint.intercalate [a, b] := by simp
  rw [joined, fields_join single (by simp [freeLeft, freeRight]) (by simp)]

theorem fields_eq_singleton (free : sep ∉ s.toList) : fields sep s = [s] := by
  simp [fields, List.splitOn_eq_singleton free]

theorem intercalate_fields (sep : Char) (s : String) :
    [sep].intercalate ((fields sep s).map String.toList) = s.toList := by
  have chars : (fields sep s).map String.toList = s.toList.splitOn sep := by
    simp [fields, List.map_map, Function.comp_def]
  rw [chars, List.intercalate_splitOn]

theorem eq_of_fields (single : fields sep s = [a]) : s = a := by
  have whole := intercalate_fields sep s
  rw [single, List.map_singleton, List.intercalate_singleton] at whole
  exact (String.toList_inj.mp whole).symm

theorem toList_of_fields (pair : fields sep s = [a, b]) : s.toList = a.toList ++ sep :: b.toList := by
  rw [← intercalate_fields sep s, pair]
  simp

theorem mem_intercalate {ls : List (List Char)} (member : c ∈ [sep].intercalate ls) :
    c = sep ∨ ∃ part ∈ ls, c ∈ part := by
  induction ls with
  | nil => simp at member
  | cons head tail ih =>
    cases tail with
    | nil => exact .inr ⟨head, by simp, by simpa using member⟩
    | cons next rest =>
      simp only [List.intercalate_cons_cons, List.append_assoc, List.mem_append,
        List.mem_singleton] at member
      rcases member with here | here | later
      · exact .inr ⟨head, by simp, here⟩
      · exact .inl here
      · rcases ih later with separator | ⟨part, among, inside⟩
        · exact .inl separator
        · exact .inr ⟨part, List.mem_cons_of_mem _ among, inside⟩

theorem mem_intercalate_of_mem {ls : List (List Char)} {part : List Char} (among : part ∈ ls)
    (inside : c ∈ part) : c ∈ [sep].intercalate ls := by
  induction ls with
  | nil => cases among
  | cons head tail ih =>
    cases tail with
    | nil => simp_all
    | cons next rest =>
      rw [List.intercalate_cons_cons, List.append_assoc, List.mem_append, List.mem_append]
      rcases List.mem_cons.mp among with rfl | later
      · exact .inl inside
      · exact .inr (.inr (ih later))

theorem mem_join_parts (single : joint.toList = [sep]) (other : c ≠ sep) :
    c ∈ (joint.intercalate parts).toList ↔ ∃ part ∈ parts, c ∈ part.toList := by
  rw [String.toList_intercalate, single]
  constructor
  · intro member
    rcases mem_intercalate member with rfl | ⟨chars, among, inside⟩
    · exact absurd rfl other
    · obtain ⟨part, given, rfl⟩ := List.mem_map.mp among
      exact ⟨part, given, inside⟩
  · rintro ⟨part, among, inside⟩
    exact mem_intercalate_of_mem (List.mem_map_of_mem among) inside

/-- A text has one field more than it has separators. -/
theorem length_fields (sep : Char) (s : String) : (fields sep s).length = s.toList.count sep + 1 := by
  have go (cs : List Char) : (cs.splitOn sep).length = cs.count sep + 1 := by
    induction cs with
    | nil => simp
    | cons c cs ih =>
      rw [List.splitOn_cons_eq_if_modifyHead]
      by_cases stop : c = sep <;> simp [stop, ih]
  rw [fields, List.length_map, go]

theorem free_of_mem_fields {part : String} (member : part ∈ fields sep s) : sep ∉ part.toList := by
  obtain ⟨chars, among, rfl⟩ := List.mem_map.mp member
  have go (cs : List Char) : ∀ part ∈ cs.splitOn sep, sep ∉ part := by
    induction cs with
    | nil => simp
    | cons c cs ih =>
      rw [List.splitOn_cons_eq_if_modifyHead]
      by_cases stop : c = sep
      · simpa [stop] using ih
      · cases later : cs.splitOn sep with
        | nil => exact absurd later (List.splitOn_ne_nil sep cs)
        | cons first others =>
          rw [later] at ih
          simpa [stop, Ne.symm stop] using ih
  simpa using go s.toList chars among

theorem mem_of_mem_fields {part : String} (among : part ∈ fields sep s) (inside : c ∈ part.toList) :
    c ∈ s.toList := by
  rw [← intercalate_fields sep s]
  exact mem_intercalate_of_mem (List.mem_map_of_mem among) inside

theorem mem_fields (sep : Char) (member : c ∈ s.toList) :
    c = sep ∨ ∃ part ∈ fields sep s, c ∈ part.toList := by
  rw [← intercalate_fields sep s] at member
  rcases mem_intercalate member with separator | ⟨chars, among, inside⟩
  · exact .inl separator
  · obtain ⟨part, given, rfl⟩ := List.mem_map.mp among
    exact .inr ⟨part, given, inside⟩

end AccessList.Text
