/-! Cutting a text at a separator character: once, at its first occurrence, or at every one. -/
namespace AccessList.Text

def cutChars (sep : Char) : List Char → Option (List Char × List Char)
  | [] => none
  | c :: s => if c = sep then some ([], s) else (cutChars sep s).map fun (a, b) => (c :: a, b)

def cut (sep : Char) (s : String) : Option (String × String) :=
  (cutChars sep s.toList).map fun (a, b) => (String.ofList a, String.ofList b)

/-- A text has one field more than it has separators. -/
def fields (sep : Char) (s : String) : List String :=
  (s.toList.splitOn sep).map String.ofList

def has (c : Char) (s : String) : Bool := s.toList.contains c

def startsWith (head s : String) : Bool := head.toList.isPrefixOf s.toList

def afterFirst (needle : List Char) : List Char → Option (List Char)
  | [] => if needle.isEmpty then some [] else none
  | c :: s =>
    if needle.isPrefixOf (c :: s) then some ((c :: s).drop needle.length)
    else afterFirst needle s

theorem cutChars_eq_none {sep : Char} {s : List Char} : cutChars sep s = none ↔ sep ∉ s := by
  induction s with
  | nil => simp [cutChars]
  | cons c s ih =>
    by_cases h : c = sep
    · simp [cutChars, h]
    · simp [cutChars, h, ih, Ne.symm h]

theorem eq_of_cutChars {sep : Char} {s a b : List Char} (h : cutChars sep s = some (a, b)) :
    s = a ++ sep :: b ∧ sep ∉ a := by
  induction s generalizing a with
  | nil => simp [cutChars] at h
  | cons c s ih =>
    by_cases hc : c = sep
    · simp [cutChars, hc] at h
      simp [h, hc]
    · simp only [cutChars, if_neg hc, Option.map_eq_some_iff, Prod.mk.injEq] at h
      obtain ⟨⟨x, y⟩, hxy, rfl, rfl⟩ := h
      obtain ⟨rfl, hx⟩ := ih hxy
      simp [hx, Ne.symm hc]

theorem cutChars_append {sep : Char} {a : List Char} (b : List Char) (h : sep ∉ a) :
    cutChars sep (a ++ sep :: b) = some (a, b) := by
  induction a with
  | nil => simp [cutChars]
  | cons c a ih =>
    simp only [List.mem_cons, not_or] at h
    simp [cutChars, Ne.symm h.1, ih h.2]

end AccessList.Text
