import AccessList.Proofs.Config.Blocks
import AccessList.Proofs.Record
import AccessList.Proofs.Text.Words

/-! Names with a description. The description is looked for at the first place where the line has the keyword. So
it is kept as it is written just if neither the address nor the alias has the keyword in it; the description itself
may have it. -/
namespace AccessList.Config

open Text

/-- A description as it can be written: some text on one line, without white space at its ends. -/
structure IsDescription (t : String) : Prop where
  given : t ≠ ""
  oneLine : ∀ c ∈ t.toList, isLineEnd c = false
  first : ∀ c ∈ t.toList.head?, isBlank c = false
  last : ∀ c ∈ t.toList.getLast?, isBlank c = false

instance (t : String) : Decidable (IsDescription t) :=
  decidable_of_iff (t ≠ "" ∧ t.toList.all (!isLineEnd ·) ∧ t.toList.head?.toList.all (!isBlank ·) ∧
      t.toList.getLast?.toList.all (!isBlank ·))
    ⟨fun ⟨given, oneLine, first, last⟩ =>
        ⟨given, by simpa using oneLine, by simpa using first, by simpa using last⟩,
      fun text => ⟨text.given, by simpa using text.oneLine, by simpa using text.first, by simpa using text.last⟩⟩

def describedLine (a symbol t : String) : String := s!"name {a} {symbol} description {t}"

/-- The keyword of a description stands somewhere in a word. -/
def HasKeyword (w : String) : Prop := "description".toList <:+: w.toList

instance (w : String) : Decidable (HasKeyword w) :=
  inferInstanceAs (Decidable ("description".toList <:+: w.toList))

variable {a symbol t : String} {cs : List Char}

theorem describedLine_toList (a symbol t : String) :
    (describedLine a symbol t).toList = "name".toList ++ ' ' ::
      (a.toList ++ ' ' :: (symbol.toList ++ ' ' :: ("description".toList ++ ' ' :: t.toList))) := by
  have joined : describedLine a symbol t = "name " ++ a ++ " " ++ symbol ++ " description " ++ t := rfl
  simp [joined]

theorem isWord_name : IsWord "name" := by decide +kernel

theorem isWord_description : IsWord "description" := by decide +kernel

theorem lines_describedLine (address : IsWord a) (named : IsWord symbol) (text : IsDescription t) :
    lines (describedLine a symbol t) = [describedLine a symbol t] := by
  apply lines_plain
  rw [describedLine_toList]
  simp only [List.forall_mem_append, List.forall_mem_cons]
  exact ⟨isWord_name.oneLine, rfl, address.oneLine, rfl, named.oneLine, rfl, isWord_description.oneLine, rfl,
    text.oneLine⟩

theorem words_describedLine (address : IsWord a) (named : IsWord symbol) :
    words (describedLine a symbol t) = "name" :: a :: symbol :: "description" :: words t := by
  have blank : isBlank ' ' = true := by decide
  rw [words_cons isWord_name blank (describedLine_toList a symbol t),
    words_cons address blank String.toList_ofList, words_cons named blank String.toList_ofList,
    words_cons isWord_description blank String.toList_ofList, String.ofList_toList]

theorem IsDescription.words_ne_nil (text : IsDescription t) : words t ≠ [] := by
  cases chars : t.toList with
  | nil => exact absurd (String.toList_eq_nil_iff.mp chars) text.given
  | cons c rest => exact Text.words_ne_nil chars (text.first c (by simp [chars]))

theorem trim_describedLine (text : IsDescription t) :
    trimChars (describedLine a symbol t).toList = (describedLine a symbol t).toList := by
  rw [describedLine_toList]
  apply trimChars_eq
  · intro c first
    obtain rfl : 'n' = c := by simpa using first
    decide
  · have given : t.toList ≠ [] := by simpa using text.given
    intro c last
    apply text.last c
    rw [List.getLast?_eq_some_getLast given]
    simpa [List.getLast?_append, List.getLast?_cons, List.getLast?_eq_some_getLast given] using last

theorem nameLine?_describedLine (address : IsWord a) (named : IsWord symbol) (text : IsDescription t) :
    nameLine? (describedLine a symbol t) =
      some (symbol, ⟨nameAddress a, descriptionOf (describedLine a symbol t).toList⟩) := by
  have active : startsWith "!" (describedLine a symbol t) = false := by
    rw [startsWith, describedLine_toList]
    rfl
  obtain ⟨w, more, given⟩ := List.exists_cons_of_ne_nil text.words_ne_nil
  have long : ¬ ("description" :: words t).length < 2 := by
    rw [given]
    simp
  simp only [nameLine?, active, words_describedLine address named, trim_describedLine text, if_neg long]
  rfl

theorem names_describedLine (address : IsWord a) (named : IsWord symbol) (text : IsDescription t) :
    (read (describedLine a symbol t)).value.names =
      ⟨[(symbol, ⟨nameAddress a, descriptionOf (describedLine a symbol t).toList⟩)]⟩ := by
  rw [value_read, names_symbols, lines_describedLine address named text, names, List.filterMap_cons,
    nameLine?_describedLine address named text]
  rfl

theorem keyword_solid : "description".toList ≠ [] ∧ ' ' ∉ "description".toList := by decide

theorem afterFirst_describedLine (a symbol t : String) :
    afterFirst "description".toList (describedLine a symbol t).toList =
      afterFirst "description".toList
        (a.toList ++ ' ' :: (symbol.toList ++ ' ' :: ("description".toList ++ ' ' :: t.toList))) := by
  obtain ⟨nonempty, free⟩ := keyword_solid
  have name : ¬ "description".toList <:+: "name".toList := by decide
  rw [describedLine_toList, afterFirst_pass nonempty free name]

/-- Without the keyword in the words before it, the description begins after the keyword that is meant. -/
theorem descriptionOf_kept (address : ¬ HasKeyword a) (named : ¬ HasKeyword symbol) (t : String) :
    descriptionOf (describedLine a symbol t).toList = t := by
  obtain ⟨nonempty, free⟩ := keyword_solid
  rw [descriptionOf, afterFirst_describedLine, afterFirst_pass nonempty free address,
    afterFirst_pass nonempty free named, afterFirst_start]
  exact String.ofList_toList

theorem suffix_descriptionOf {line more rest : List Char}
    (found : afterFirst "description".toList line = some (more ++ ' ' :: rest)) :
    rest <:+ (descriptionOf line).toList := by
  rw [descriptionOf, found, String.toList_ofList]
  cases more with
  | nil => exact List.suffix_refl rest
  | cons c more => exact (List.suffix_cons ' ' rest).trans (List.suffix_append more (' ' :: rest))

/-- With the keyword in a word before it, what is cut out has the keyword that is meant before the description. -/
theorem descriptionOf_early (early : HasKeyword a ∨ HasKeyword symbol) (t : String) :
    ("description " ++ t).toList <:+ (descriptionOf (describedLine a symbol t).toList).toList := by
  obtain ⟨nonempty, free⟩ := keyword_solid
  have meant : ("description " ++ t).toList = "description".toList ++ ' ' :: t.toList := by simp
  have line := afterFirst_describedLine a symbol t
  rw [meant]
  by_cases address : HasKeyword a
  · obtain ⟨more, found⟩ := afterFirst_inside address
      (' ' :: (symbol.toList ++ ' ' :: ("description".toList ++ ' ' :: t.toList)))
    have later := suffix_descriptionOf (line.trans found)
    exact ((List.suffix_cons ' ' _).trans (List.suffix_append symbol.toList _)).trans later
  · obtain ⟨more, found⟩ := afterFirst_inside (early.resolve_left address)
      (' ' :: ("description".toList ++ ' ' :: t.toList))
    rw [afterFirst_pass nonempty free address, found] at line
    exact suffix_descriptionOf line

/-- A name with a description has its address, and the description as it is written just if the keyword occurs
neither in the address nor in the alias. Otherwise what is kept for it has the keyword and the description at its
end. -/
theorem description_kept_iff (address : IsWord a) (named : IsWord symbol) (text : IsDescription t) :
    ∃ kept, (read (describedLine a symbol t)).value.names = ⟨[(symbol, ⟨nameAddress a, kept⟩)]⟩ ∧
      (kept = t ↔ ¬ HasKeyword a ∧ ¬ HasKeyword symbol) ∧
      (kept ≠ t → ("description " ++ t).toList <:+ kept.toList) := by
  have entry := names_describedLine address named text
  have kept (without : ¬ HasKeyword a ∧ ¬ HasKeyword symbol) := descriptionOf_kept without.1 without.2 t
  have longer (early : ¬ (¬ HasKeyword a ∧ ¬ HasKeyword symbol)) := by
    rw [not_and_or, not_not, not_not] at early
    exact descriptionOf_early early t
  generalize descriptionOf (describedLine a symbol t).toList = d at entry kept longer
  refine ⟨d, entry, ⟨?_, kept⟩, fun differs => longer (mt kept differs)⟩
  rintro rfl
  by_contra early
  have fits := (longer early).length_le
  have more : 0 < "description ".toList.length := by decide
  rw [String.toList_append, List.length_append] at fits
  omega

/-- A description may have the keyword in it. -/
theorem description_kept_iff_server :
    IsWord "10.0.0.1" ∧ IsWord "server" ∧ IsDescription "Its description" ∧
      (read "name 10.0.0.1 server description Its description").value.names =
        ⟨[("server", ⟨"10.0.0.1", "Its description"⟩)]⟩ := by
  have address : IsWord "10.0.0.1" := by decide +kernel
  have named : IsWord "server" := by decide +kernel
  have text : IsDescription "Its description" := by decide +kernel
  have line : describedLine "10.0.0.1" "server" "Its description" =
      "name 10.0.0.1 server description Its description" := by decide +kernel
  have plain : nameAddress "10.0.0.1" = "10.0.0.1" := by decide +kernel
  obtain ⟨kept, entry, same, _⟩ := description_kept_iff address named text
  rw [same.mpr (by decide +kernel), line, plain] at entry
  exact ⟨address, named, text, entry⟩

/-- An alias with the keyword in it is taken for the beginning of its own description. -/
theorem keyword_in_alias :
    IsWord "10.0.0.1" ∧ IsWord "description-server" ∧ IsDescription "Public web server" ∧
      describedLine "10.0.0.1" "description-server" "Public web server" =
        "name 10.0.0.1 description-server description Public web server" ∧
      (read "name 10.0.0.1 description-server description Public web server").value.names ≠
        ⟨[("description-server", ⟨nameAddress "10.0.0.1", "Public web server"⟩)]⟩ ∧
      (read "name 10.0.0.1 description-server description Public web server").value.names =
        ⟨[("description-server", ⟨"10.0.0.1", "server description Public web server"⟩)]⟩ := by
  decide +kernel

end AccessList.Config
