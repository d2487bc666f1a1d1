import AccessList.Proofs.Lookup.Malformed
import AccessList.Proofs.Lookup.Outcome
import AccessList.Proofs.Text.Lines

/-! Lists of queries in parts. However its lines end, a text comes to what its parts come to one after another.
What is found is what the queries of its lines find, and each line with a problem is reported once. -/
namespace AccessList

open Text Address Lookup

variable {records : List Record} {q : Query} {line : String}

instance QueryAddress.decidableIsUnreadable (a : QueryAddress) : Decidable a.IsUnreadable :=
  decidable_of_iff (a.isGiven = true ∧ a.kind = .v6 ∧ (Family.v6.read? a.host).isNone = true)
    ⟨fun ⟨given, kind, host⟩ => ⟨given, kind, Option.isNone_iff_eq_none.mp host⟩,
      fun ⟨given, kind, host⟩ => ⟨given, kind, Option.isNone_iff_eq_none.mpr host⟩⟩

namespace Query

/-- A line that asks for nothing: a blank line, or a comment, which may have white space before its mark. -/
def IsIdle (line : String) : Prop := ∀ c ∈ (line.toList.dropWhile isBlank).head?, c = '!' ∨ c = '#'

instance (line : String) : Decidable (IsIdle line) :=
  inferInstanceAs (Decidable (∀ c ∈ (line.toList.dropWhile isBlank).head?, c = '!' ∨ c = '#'))

theorem isIdle_iff : IsIdle line ↔ ((trim line).isEmpty || isComment (trim line)) = true := by
  have chars : (trim line).toList = trimChars line.toList := by rw [trim, String.toList_ofList]
  have empty : (trim line).isEmpty = (trimChars line.toList).isEmpty := by
    rw [Bool.eq_iff_iff, String.isEmpty_iff, List.isEmpty_iff, ← chars, String.toList_eq_nil_iff]
  rw [IsIdle, ← head?_trimChars, isComment, startsWith, startsWith, chars, empty]
  cases trimChars line.toList with
  | nil => simp
  | cons c rest => simp [@eq_comm _ c]

theorem ofLine?_of_isIdle (idle : IsIdle line) : ofLine? line = none := if_pos (isIdle_iff.mp idle)

end Query

namespace Lookup

/-- The problem with a line, if there is one. -/
def problem? (line : String) : Option Problem :=
  match Query.ofLine? line with
  | some q =>
    if q.source.IsUnreadable ∨ q.destination.IsUnreadable then some (.invalidAddress q) else none
  | none => if Query.IsIdle line then none else some (.invalidLine (trim line))

theorem lookUpLine_of_query (read : Query.ofLine? line = some q) : lookUpLine records line = lookUp records q := by
  simp [lookUpLine, read]

theorem lookUpLine_of_idle (idle : Query.IsIdle line) : lookUpLine records line = {} := by
  rw [lookUpLine, Query.ofLine?_of_isIdle idle]
  exact if_pos (Query.isIdle_iff.mp idle)

theorem lookUpLine_of_invalid (unread : Query.ofLine? line = none) (busy : ¬ Query.IsIdle line) :
    lookUpLine records line = { problems := [.invalidLine (trim line)] } := by
  rw [lookUpLine, unread]
  exact if_neg (mt Query.isIdle_iff.mpr busy)

theorem lookUp_problems_eq (records : List Record) (q : Query) : (lookUp records q).problems =
    if q.source.IsUnreadable ∨ q.destination.IsUnreadable then [.invalidAddress q] else [] := by
  cases target : target? q with
  | none => rw [if_pos (target?_eq_none.mp target), lookUp, target]
  | some t =>
    have readable : ¬ (q.source.IsUnreadable ∨ q.destination.IsUnreadable) := by
      rw [← target?_eq_none, target]
      simp
    rw [if_neg readable, lookUp_problems target]

theorem lookUpLine_problems (records : List Record) (line : String) :
    (lookUpLine records line).problems = (problem? line).toList := by
  cases read : Query.ofLine? line with
  | some q =>
    rw [lookUpLine_of_query read, lookUp_problems_eq]
    simp only [problem?, read]
    split <;> rfl
  | none =>
    by_cases idle : Query.IsIdle line
    · simp [lookUpLine_of_idle idle, problem?, read, idle]
    · simp [lookUpLine_of_invalid read idle, problem?, read, idle]

theorem lookUpLine_answer (records : List Record) (unread : Query.ofLine? line = none) :
    (lookUpLine records line).found = {} ∧ (lookUpLine records line).failure = none := by
  by_cases idle : Query.IsIdle line
  · simp [lookUpLine_of_idle idle]
  · simp [lookUpLine_of_invalid unread idle]

/-- The lines find what their queries find, and fail where one of these does. -/
theorem accumulate_queries (records : List Record) (lines : List String) :
    let queries := accumulate (lookUp records) (lines.filterMap Query.ofLine?)
    (accumulate (lookUpLine records) lines).found = queries.found ∧
      (accumulate (lookUpLine records) lines).failure = queries.failure := by
  intro queries
  induction lines with
  | nil => exact ⟨rfl, rfl⟩
  | cons line lines ih =>
    obtain ⟨found, failure⟩ := ih
    simp only [queries, accumulate_cons]
    cases read : Query.ofLine? line with
    | none =>
      obtain ⟨nothing, fine⟩ := lookUpLine_answer records read
      rw [Outcome.andThen_of_fine fine, List.filterMap_cons_none read, ← found, ← failure, nothing]
      exact ⟨rfl, rfl⟩
    | some q =>
      rw [List.filterMap_cons_some read, accumulate_cons, lookUpLine_of_query read]
      by_cases fine : (lookUp records q).failure = none
      · rw [Outcome.andThen_of_fine fine, Outcome.andThen_of_fine fine, found, failure]
        exact ⟨rfl, rfl⟩
      · rw [Outcome.andThen_of_failed fine, Outcome.andThen_of_failed fine]
        exact ⟨rfl, rfl⟩

theorem lookUpText_fullLines (records : List Record) (text : String) :
    lookUpText records text = accumulate (lookUpLine records) (fullLines text) := by
  refine (accumulate_filter fun line _ empty => lookUpLine_of_idle ?_).symm
  obtain rfl : line = "" := by simpa using empty
  simp [Query.IsIdle]

/-- A text is looked up in parts, up to the first failure. -/
theorem lookUpText_append {newline : String} (ends : newline ∈ lineEnds) (first second : String) :
    lookUpText records (first ++ newline ++ second) =
      (lookUpText records first).andThen fun _ => lookUpText records second := by
  rw [lookUpText_fullLines, lookUpText_fullLines, lookUpText_fullLines, fullLines_append ends, accumulate_append]

theorem lookUpText_warnings {text : String} (fine : (lookUpText records text).failure = none) :
    (lookUpText records text).warnings = ((lines text).filterMap problem?).map Problem.message := by
  rw [lookUpText, lookUpLines_eq] at fine ⊢
  rw [Outcome.warnings, warnings_problems, accumulate_problems fine, List.filterMap_eq_flatMap_toList]
  simp only [lookUpLine_problems]

/-- Where no look-up fails, two texts with any line end between them find what they find by themselves, and
the warnings of the first are followed by those of the second. A text finds what its queries find one after
another, and fails as they do. It is warned of each line that is neither blank nor a comment nor a query and of
each query with an address of version 6 that cannot be read, once and in the order of the lines. -/
theorem lookUpText_composes (records : List Record) :
    (∀ first second, ∀ newline ∈ lineEnds, (lookUpText records first).failure = none →
      (lookUpText records second).failure = none →
      let whole := lookUpText records (first ++ newline ++ second)
      whole.failure = none ∧
      whole.found.full = (lookUpText records first).found.full ++ (lookUpText records second).found.full ∧
      whole.found.effective =
        (lookUpText records first).found.effective ++ (lookUpText records second).found.effective ∧
      whole.warnings = (lookUpText records first).warnings ++ (lookUpText records second).warnings) ∧
    (∀ text,
      (lookUpText records text).found = (accumulate (lookUp records) (Query.ofText text)).found ∧
      (lookUpText records text).failure = (accumulate (lookUp records) (Query.ofText text)).failure ∧
      ((lookUpText records text).failure = none →
        (lookUpText records text).warnings = ((lines text).filterMap problem?).map Problem.message)) := by
  refine ⟨fun first second newline ends fine fine' => ?_, fun text => ?_⟩
  · intro whole
    have parts : whole = (lookUpText records first).andThen fun _ => lookUpText records second :=
      lookUpText_append ends first second
    rw [Outcome.andThen_of_fine fine] at parts
    rw [parts]
    exact ⟨fine', rfl, rfl, by simp [Outcome.warnings, Diagnostics.warnings_append]⟩
  · obtain ⟨found, failure⟩ := accumulate_queries records (lines text)
    exact ⟨found, failure, lookUpText_warnings⟩

/-- A line end whose two characters come from both texts, with comments, a line that is no query and an address
that cannot be read. -/
theorem lookUpText_composes_hosts :
    let d : Record := { list := "inside", line := 1, action := "deny", protocol := "ip", source := "10.0.0.0/8"
                        destination := "0/0" }
    let r : Record := { list := "inside", line := 2, action := "permit", source := "0/0", destination := "0/0" }
    let first := "# hosts\r\n10.0.0.1/32\rhost one\r"
    let second := "\u00a0! nets\n::x\r\n\r,a.b"
    let whole := lookUpText [d, r] (first ++ "\n" ++ second)
    whole.failure = none ∧
      whole.found.full = [⟨"from_10.0.0.1/32", d⟩, ⟨"from_10.0.0.1/32", r⟩] ∧
      whole.found.effective = [⟨"from_10.0.0.1/32", d⟩] ∧
      whole.warnings = ["Invalid lookup query skipped: host one", "Invalid IPv6 address in lookup query: ::x,",
        "Invalid lookup query skipped: ,a.b"] := by
  intro d r first second whole
  obtain ⟨joined, _⟩ := lookUpText_composes [d, r]
  obtain ⟨fine, full, effective, warned⟩ :=
    joined first second "\n" (by decide) (by decide +kernel) (by decide +kernel)
  refine ⟨fine, ?_, ?_, ?_⟩
  · rw [full]
    decide +kernel
  · rw [effective]
    decide +kernel
  · rw [warned]
    decide +kernel

end Lookup
end AccessList
