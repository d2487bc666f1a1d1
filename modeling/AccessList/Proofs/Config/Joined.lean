import AccessList.Proofs.Config.Sections
import AccessList.Proofs.Config.Tables
import AccessList.Proofs.Table
import AccessList.Proofs.Text.Lines

/-! Configurations one after another. No section goes on past a line that is not indented, so that from there on a
configuration is read as if it stood alone, and its objects are added to those before it. -/
namespace AccessList.Config

open Text Clause

variable {before after : List String} {line : String}

/-- What ends a section: an empty line, a comment, or any line that is not indented. -/
def EndsSection (line : String) : Prop := line = "" ∨ startsWith "!" line = true ∨ startsWith " " line = false

theorem flush_of_endsSection (ends : EndsSection line) : startsWith " " line = false := by
  rcases ends with rfl | comment | flush
  · rfl
  · cases start : line.toList with
    | nil => simp [startsWith, start]
    | cons c rest =>
      obtain rfl : '!' = c := by simpa [startsWith, start] using comment
      rw [startsWith, start]
      rfl
  · exact flush

theorem sections_append (keyword : String) (seam : ∀ line ∈ after.head?, EndsSection line) :
    sections keyword (before ++ after) = sections keyword before ++ sections keyword after := by
  rw [sections_eq, sectionsFrom_append fun line first => flush_of_endsSection (seam line first), ← sections_eq,
    ← sections_eq]

def networkAssigned? : SectionLine → Option (String × String)
  | .body h tokens =>
    if isNetworkObject h && token tokens ≠ "description" then some (h.symbol, networkValue tokens) else none
  | _ => none

def serviceAssigned? : SectionLine → Option (String × String)
  | .body h tokens =>
    if isServiceObject h && token tokens = "service" then
      some (h.symbol, (Service.describe (tokens.drop 1)).value)
    else none
  | _ => none

theorem networkObjects_line (s : Symbols) (e : SectionLine) :
    (objectLine s e).value.networkObjects = s.networkObjects.insertAll (networkAssigned? e).toList := by
  cases e with
  | unnamed | header => rw [objectLine_other _ (by simp)]; rfl
  | body h tokens =>
    rw [objectLine_body, networkAssigned?]
    split_ifs <;> simp_all [Table.insertAll]

theorem serviceObjects_line (s : Symbols) (e : SectionLine) :
    (objectLine s e).value.serviceObjects = s.serviceObjects.insertAll (serviceAssigned? e).toList := by
  cases e with
  | unnamed | header => rw [objectLine_other _ (by simp)]; rfl
  | body h tokens =>
    have kinds := isNetworkObject_service (h := h)
    rw [objectLine_body, serviceAssigned?]
    split_ifs <;> simp_all [Table.insertAll]

/-- Where each line inserts what it gives, all lines insert what they give, in their order. -/
theorem table_foldl {σ α : Type} {step : σ → SectionLine → σ} {view : σ → Table α}
    {assigned? : SectionLine → Option (String × α)}
    (one : ∀ s e, view (step s e) = (view s).insertAll (assigned? e).toList) (events : List SectionLine) (s : σ) :
    view (events.foldl step s) = (view s).insertAll (events.filterMap assigned?) := by
  induction events generalizing s with
  | nil => rfl
  | cons e events ih =>
    rw [List.foldl_cons, ih, one, ← Table.insertAll_append]
    cases given : assigned? e <;> simp [given]

theorem networkObjects_eq (lines : List String) :
    (symbols lines).networkObjects = Table.ofList ((sections "object" lines).filterMap networkAssigned?) := by
  rw [symbols_eq, view_foldl_of_keeps Symbols.networkObjects fun s e => (groupLine_keeps s e).2.1,
    table_foldl networkObjects_line, Table.ofList_eq]

theorem serviceObjects_eq (lines : List String) :
    (symbols lines).serviceObjects = Table.ofList ((sections "object" lines).filterMap serviceAssigned?) := by
  rw [symbols_eq, view_foldl_of_keeps Symbols.serviceObjects fun s e => (groupLine_keeps s e).2.2,
    table_foldl serviceObjects_line, Table.ofList_eq]

/-- Lines that begin with the end of a section give the same sections after any others. The objects of both are those
of the first, brought up to date in order by those of the second, and so it is with two texts that a line feed joins. -/
theorem sections_local (seam : ∀ line ∈ after.head?, EndsSection line) :
    (∀ keyword, sections keyword (before ++ after) = sections keyword before ++ sections keyword after) ∧
    (symbols (before ++ after)).networkObjects =
      (symbols before).networkObjects.update (symbols after).networkObjects ∧
    (symbols (before ++ after)).serviceObjects =
      (symbols before).serviceObjects.update (symbols after).serviceObjects ∧
    ∀ first second, lines first = before → lines second = after → first.toList.getLast? ≠ some '\r' →
      (read (first ++ "\n" ++ second)).value = symbols (before ++ after) := by
  refine ⟨fun keyword => sections_append keyword seam, ?_, ?_, fun first second earlier later whole => ?_⟩
  · rw [networkObjects_eq, networkObjects_eq, networkObjects_eq, sections_append _ seam, List.filterMap_append,
      Table.ofList_append]
  · rw [serviceObjects_eq, serviceObjects_eq, serviceObjects_eq, sections_append _ seam, List.filterMap_append,
      Table.ofList_append]
  · rw [read, lines_join whole, earlier, later, symbols]

/-- A comment closes the section before it, so that an indented header opens one again. The alias that it defines
anew keeps its place. -/
theorem sections_local_redefined :
    let before := ["object network a", " host 10.0.0.1", "object network b", " host 10.0.0.2"]
    let after := ["!", " object network a", " host 10.0.0.3"]
    (∀ line ∈ after.head?, EndsSection line) ∧
      sections "object" (before ++ after) = sections "object" before ++ sections "object" after ∧
      (symbols (before ++ after)).networkObjects.entries = [("a", "10.0.0.3/32"), ("b", "10.0.0.2/32")] := by
  intro before after
  have seam : ∀ line ∈ after.head?, EndsSection line := by
    intro line first
    obtain rfl : "!" = line := Option.some.inj first
    exact .inr (.inl (by decide))
  obtain ⟨apart, objects, _⟩ := @sections_local before after seam
  refine ⟨seam, apart "object", ?_⟩
  rw [objects]
  decide +kernel

end AccessList.Config
