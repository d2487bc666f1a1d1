import AccessList.Record
import AccessList.Proofs.Numeral
import AccessList.Proofs.Text.Lines

/-! Records as text. The label of a record gives back its list and its number. A CSV line has no quotes, so that a
record can be read back from its line just if no comma stands in its texts and no white space at the ends of the
line. What is read from any line is a record of this kind. -/
namespace AccessList

open Text

variable {cs : List Char} {c : Char} {text : String} {r : Record}

theorem Text.trimChars_eq (first : ∀ c ∈ cs.head?, isBlank c = false)
    (last : ∀ c ∈ cs.getLast?, isBlank c = false) : trimChars cs = cs := by
  have kept (ds : List Char) (first : ∀ c ∈ ds.head?, isBlank c = false) : ds.dropWhile isBlank = ds := by
    cases ds with
    | nil => rfl
    | cons d ds => simp [first d rfl]
  rw [trimChars, kept cs first, kept cs.reverse (by simpa using last), List.reverse_reverse]

theorem Text.count_trimChars (cs : List Char) (plain : isBlank c = false) :
    (trimChars cs).count c = cs.count c := by
  have dropped (ds : List Char) : (ds.dropWhile isBlank).count c = ds.count c := by
    induction ds with
    | nil => rfl
    | cons d ds ih =>
      rw [List.dropWhile_cons]
      split
      · next blank =>
        have other : d ≠ c := by
          rintro rfl
          exact absurd (plain.symm.trans blank) (by decide)
        simp [ih, other]
      · rfl
  rw [trimChars, List.count_reverse, dropped, List.count_reverse, dropped]

theorem Text.head?_trimChars_solid (cs : List Char) : ∀ c ∈ (trimChars cs).head?, isBlank c = false := by
  intro c first
  rw [head?_trimChars] at first
  have solid := List.head?_dropWhile_not isBlank cs
  rwa [show (cs.dropWhile isBlank).head? = some c from first] at solid

theorem Text.getLast?_trimChars_solid (cs : List Char) :
    ∀ c ∈ (trimChars cs).getLast?, isBlank c = false := by
  intro c last
  rw [trimChars, List.getLast?_reverse] at last
  have solid := List.head?_dropWhile_not isBlank (cs.dropWhile isBlank).reverse
  rwa [show ((cs.dropWhile isBlank).reverse.dropWhile isBlank).head? = some c from last] at solid

namespace Record

/-- The last colon of a label stands before the number, whatever the name of the list has in it. -/
theorem label_inj {d : Record} : r.label = d.label ↔ r.list = d.list ∧ r.line = d.line := by
  have chars (r : Record) :
      r.label.toList.reverse = (toString r.line).toList.reverse ++ ':' :: r.list.toList.reverse := by
    rw [label, show s!"{r.list}:{r.line}" = r.list ++ ":" ++ toString r.line from rfl]
    simp
  have cut (r : Record) : cutChars ':' r.label.toList.reverse =
      some ((toString r.line).toList.reverse, r.list.toList.reverse) := by
    rw [chars, cutChars_append]
    rw [List.mem_reverse]
    exact Numeral.not_mem_toString (by decide) (by decide)
  constructor
  · intro same
    have parts := cut r
    rw [same, cut d, Option.some.injEq, Prod.mk.injEq, List.reverse_inj, List.reverse_inj, String.toList_inj,
      String.toList_inj, Numeral.toString_inj] at parts
    exact ⟨parts.2.symm, parts.1.symm⟩
  · rintro ⟨list, line⟩
    rw [label, label, list, line]

def texts (r : Record) : List String :=
  [r.list, r.type, r.action, r.protocol, r.source, r.sourcePort, r.destination, r.destinationPort, r.icmp,
    r.state]

theorem texts_sublist (r : Record) (number : String) : r.texts.Sublist (r.list :: number :: r.texts.tail) :=
  .cons_cons _ (.cons _ (.refl _))

theorem toCsv_toList (r : Record) : ∃ middle, r.toCsv.toList =
    r.list.toList ++ ',' :: (middle ++ ',' :: r.state.toList) := by
  refine ⟨String.toList (String.intercalate "," [toString r.line, r.type, r.action, r.protocol, r.source,
    r.sourcePort, r.destination, r.destinationPort, r.icmp]), ?_⟩
  simp [toCsv, toFields]

theorem trim_toCsv (front : ∀ c ∈ r.list.toList.head?, isBlank c = false)
    (back : ∀ c ∈ r.state.toList.getLast?, isBlank c = false) : trim r.toCsv = r.toCsv := by
  obtain ⟨middle, written⟩ := toCsv_toList r
  have comma : isBlank ',' = false := by decide
  rw [trim, trimChars_eq, String.ofList_toList]
  · rw [written]
    cases start : r.list.toList with
    | nil => simpa using comma
    | cons first rest => simpa using front first (by simp [start])
  · have parted : r.list.toList ++ ',' :: (middle ++ ',' :: r.state.toList) =
        (r.list.toList ++ ',' :: middle) ++ ',' :: r.state.toList := by simp
    rw [written, parted, List.getLast?_append, List.getLast?_cons]
    cases finish : r.state.toList.getLast? with
    | none => simpa using comma
    | some last => simpa using back last finish

theorem free_toFields (free : ∀ text ∈ r.texts, ',' ∉ text.toList) : ∀ text ∈ r.toFields, ',' ∉ text.toList := by
  intro text member
  by_cases line : text = toString r.line
  · rw [line]
    exact Numeral.not_mem_toString (by decide) (by decide)
  · refine free text ?_
    simp only [texts, toFields, List.mem_cons] at member ⊢
    tauto

/-- Records without commas are read back from their lines. -/
theorem ofCsv_toCsv (short : Numeral.isWritable r.line = true) (free : ∀ text ∈ r.texts, ',' ∉ text.toList)
    (front : ∀ c ∈ r.list.toList.head?, isBlank c = false)
    (back : ∀ c ∈ r.state.toList.getLast?, isBlank c = false) : ofCsv r.toCsv = .ok r := by
  have parts : fields ',' r.toCsv = r.toFields := fields_join rfl (free_toFields free) (by simp [toFields])
  simp only [ofCsv, trim_toCsv front back, parts, toFields, Numeral.read_toString short]

theorem count_toCsv (r : Record) :
    r.toCsv.toList.count ',' = (r.toFields.flatMap String.toList).count ',' + 10 := by
  simp [toCsv, toFields]
  omega

/-- A comma in a text makes one field more. -/
theorem ofCsv_comma (member : text ∈ r.texts) (comma : ',' ∈ text.toList) :
    ∃ count, ofCsv r.toCsv = .error (.fieldCount count r.toCsv) ∧ 11 < count := by
  have among : text ∈ r.toFields := (texts_sublist r (toString r.line)).subset member
  have counted : 0 < (r.toFields.flatMap String.toList).count ',' :=
    List.count_pos_iff.mpr (List.mem_flatMap.mpr ⟨text, among, comma⟩)
  have length : (fields ',' (trim r.toCsv)).length = r.toCsv.toList.count ',' + 1 := by
    rw [length_fields, trim, String.toList_ofList, count_trimChars _ (by decide)]
  have many : 11 < (fields ',' (trim r.toCsv)).length := by
    rw [length, count_toCsv]
    omega
  refine ⟨_, ?_, many⟩
  simp only [ofCsv]
  split
  · next eleven =>
    rw [eleven] at many
    exact absurd many (by simp)
  · rfl

theorem fields_of_ofCsv (read : ofCsv text = .ok r) :
    ∃ number, fields ',' (trim text) = r.list :: number :: r.texts.tail := by
  revert read
  fun_cases ofCsv text with
  | case1 _ list number type action protocol source sourcePort destination destinationPort icmp state parts =>
    intro read
    rw [← Except.ok.inj read]
    exact ⟨number, parts⟩
  | case2 => nofun
  | case3 => nofun

theorem free_of_ofCsv (read : ofCsv text = .ok r) : ∀ text ∈ r.texts, ',' ∉ text.toList := by
  obtain ⟨number, parts⟩ := fields_of_ofCsv read
  intro field member
  apply free_of_mem_fields (s := trim text)
  rw [parts]
  exact (texts_sublist r number).subset member

theorem ends_of_ofCsv (read : ofCsv text = .ok r) : (∀ c ∈ r.list.toList.head?, isBlank c = false) ∧
    ∀ c ∈ r.state.toList.getLast?, isBlank c = false := by
  obtain ⟨number, parts⟩ := fields_of_ofCsv read
  have whole : ∃ middle, trimChars text.toList = r.list.toList ++ ',' :: (middle ++ ',' :: r.state.toList) := by
    refine ⟨[','].intercalate ((number :: r.texts.tail.dropLast).map String.toList), ?_⟩
    rw [← String.toList_ofList (l := trimChars text.toList), ← trim, ← intercalate_fields ',', parts]
    simp [texts]
  obtain ⟨middle, whole⟩ := whole
  constructor
  · intro c first
    refine head?_trimChars_solid text.toList c ?_
    rw [whole, List.head?_append, Option.mem_def.mp first]
    rfl
  · intro c last
    refine getLast?_trimChars_solid text.toList c ?_
    rw [whole, ← List.cons_append, ← List.append_assoc, List.getLast?_append, List.getLast?_cons,
      Option.mem_def.mp last]
    rfl

/-- The records that are read back from their lines are those without a comma in a text, without white space at the
start of the list's name and without white space at the end of the state. A comma in a text makes a line that is
refused for its number of fields. -/
theorem ofCsv_toCsv_iff (r : Record) (short : Numeral.isWritable r.line = true) :
    (ofCsv r.toCsv = .ok r ↔ (∀ text ∈ r.texts, ',' ∉ text.toList) ∧
      (∀ c ∈ r.list.toList.head?, isBlank c = false) ∧ ∀ c ∈ r.state.toList.getLast?, isBlank c = false) ∧
    ((∃ text ∈ r.texts, ',' ∈ text.toList) →
      ∃ count, ofCsv r.toCsv = .error (.fieldCount count r.toCsv) ∧ columns.length < count) := by
  refine ⟨⟨fun read => ⟨free_of_ofCsv read, ends_of_ofCsv read⟩, ?_⟩, ?_⟩
  · rintro ⟨free, front, back⟩
    exact ofCsv_toCsv short free front back
  · rintro ⟨text, member, comma⟩
    exact ofCsv_comma member comma

/-- Texts may be empty or have white space in the middle, and the number may be negative. -/
theorem ofCsv_toCsv_iff_spaced :
    let r : Record := { line := -12, type := " a b ", icmp := "\u2028", state := "" }
    let indented : Record := { r with list := "\u00a0inside" }
    let parted : Record := { r with action := "permit,deny" }
    Numeral.isWritable r.line = true ∧ ofCsv r.toCsv = .ok r ∧ ofCsv indented.toCsv ≠ .ok indented ∧
      ∃ count, ofCsv parted.toCsv = .error (.fieldCount count parted.toCsv) ∧ columns.length < count := by
  intro r indented parted
  have short : Numeral.isWritable (-12) = true := by decide
  refine ⟨short, (ofCsv_toCsv_iff r short).1.mpr ⟨by decide, by simp [r], by simp [r]⟩, fun read => ?_,
    (ofCsv_toCsv_iff parted short).2 ⟨"permit,deny", by decide, by decide⟩⟩
  obtain ⟨_, front, _⟩ := (ofCsv_toCsv_iff indented short).1.mp read
  exact absurd (front '\u00a0' (by simp [indented])) (by decide)

end Record
end AccessList
