import AccessList.Lookup.Search
import Mathlib.Data.List.Basic
import Mathlib.Tactic.MkIffOfInductiveProp

/-! The search as a walk over the records. What a visit does is said once, and a search over more
records goes on from what the search over the first of them has found. -/
namespace AccessList.Lookup

variable {t : Target} {s : Search} {r : Record} {q : Query} {before after records : List Record}

/-- The matches of a visit are the ones before it and at most the record itself. -/
def Search.found (s : Search) (m : Match) (isFull isEffective : Bool) (shadowed : String) : Search where
  shadowed
  full := if isFull then s.full.push m else s.full
  effective := if isEffective then s.effective.push m else s.effective

/-- Whether all traffic of the query is denied before a record of a list is reached. -/
def Search.hides (s : Search) (list : String) : Bool := s.shadowed = list && !s.shadowed.isEmpty

theorem isMatch_source (given : t.query.source.isGiven = true) (absent : t.query.destination.isGiven = false) :
    isMatch t r = isWithin r.source t.source t.query.source.kind := by
  simp [isMatch, given, absent]

theorem isMatch_destination (absent : t.query.source.isGiven = false)
    (given : t.query.destination.isGiven = true) :
    isMatch t r = isWithin r.destination t.destination t.query.destination.kind := by
  simp [isMatch, given, absent]

theorem isMatch_both (same : t.query.source.isGiven = t.query.destination.isGiven) : isMatch t r = do
    if ← isWithin r.source t.source t.query.source.kind then
      isWithin r.destination t.destination t.query.destination.kind
    else return false := by
  cases given : t.query.destination.isGiven <;> simp [isMatch, same, given]

/-- The fields that a query asks about hold its addresses. A query that gives no address asks about both
fields. -/
@[mk_iff]
structure Target.IsHeldBy (t : Target) (r : Record) : Prop where
  source : t.query.source.isGiven = true ∨ t.query.destination.isGiven = false →
    isWithin r.source t.source t.query.source.kind = .ok true
  destination : t.query.destination.isGiven = true ∨ t.query.source.isGiven = false →
    isWithin r.destination t.destination t.query.destination.kind = .ok true

/-- A record is a match just when it holds the query, also where the look at one field comes to no answer. -/
theorem isMatch_iff : isMatch t r = .ok true ↔ t.IsHeldBy r := by
  have both (first second : Except Numeral.Unreadable Bool) :
      (do if ← first then second else return false : Except Numeral.Unreadable Bool) = .ok true ↔
        first = .ok true ∧ second = .ok true := by
    rcases first with e | _ | _ <;> simp [bind, Except.bind, pure, Except.pure]
  rw [Target.isHeldBy_iff]
  cases source : t.query.source.isGiven <;> cases destination : t.query.destination.isGiven
  · simp [isMatch_both (source.trans destination.symm), both]
  · simp [isMatch_destination source destination]
  · simp [isMatch_source source destination]
  · simp [isMatch_both (source.trans destination.symm), both]

instance (t : Target) (r : Record) : Decidable (t.IsHeldBy r) := decidable_of_iff _ isMatch_iff

theorem isMatch_eq (answers : ∃ b, isMatch t r = .ok b) : isMatch t r = .ok (decide (t.IsHeldBy r)) := by
  obtain ⟨b, answer⟩ := answers
  rw [answer]
  refine congrArg _ (Bool.eq_iff_iff.mpr ?_)
  rw [decide_eq_true_iff, ← isMatch_iff, answer, Except.ok.injEq]

theorem visit_ok {matched : Bool} (fine : s.failure = none) (answer : isMatch t r = .ok matched) :
    visit t s r = s.found ⟨t.query.tag, r⟩ matched (matched && r.isActive && !s.hides r.list)
      (if matched && shadows t.query r then r.list
        else if s.shadowed = r.list then s.shadowed else "") := by
  cases matched <;> by_cases same : s.shadowed = r.list <;>
    simp [visit, fine, answer, same, Search.found, Search.hides]
  cases s
  simp_all

/-- The entries that deny all traffic of a query. The source may be any that matches, unless only the
destination is asked for; the destination has to be everything, or all of the queried family. -/
theorem shadows_iff : shadows q r = true ↔
    r.action = "deny" ∧ r.isActive = true ∧ r.protocol = "ip" ∧
      (r.source = Field.anyAddress ∧ r.destination = Field.anyAddress ∨
        (q.source.isGiven = true ∨ q.destination.isGiven = false) ∧ r.destination = Field.anyAddress ∨
        (q.source.isGiven = q.destination.isGiven) ∧
          (q.destination.kind = .v4 ∧ r.destination = Field.anyAddress4 ∨
            q.destination.kind = .v6 ∧ r.destination = Field.anyAddress6)) := by
  cases source : q.source.isGiven <;> cases destination : q.destination.isGiven <;>
    cases kind : q.destination.kind <;>
    grind [shadows]

theorem search_append : search t (before ++ after) = after.foldl (visit t) (search t before) :=
  List.foldl_append

theorem search_concat : search t (before ++ [r]) = visit t (search t before) r :=
  search_append

theorem visit_extends (t : Target) (s : Search) (r : Record) :
    s.full.toList <+: (visit t s r).full.toList ∧
      s.effective.toList <+: (visit t s r).effective.toList := by
  by_cases fine : s.failure = none
  · cases answer : isMatch t r with
    | error cause => by_cases same : s.shadowed = r.list <;> simp [visit, fine, answer, same]
    | ok matched =>
      rw [visit_ok fine answer]
      constructor <;> simp only [Search.found] <;> split <;> simp
  · have failed : s.failure.isSome = true := Option.isSome_iff_ne_none.mpr fine
    simp [visit, failed]

theorem foldl_visit_extends (t : Target) (s : Search) (records : List Record) :
    s.full.toList <+: (records.foldl (visit t) s).full.toList ∧
      s.effective.toList <+: (records.foldl (visit t) s).effective.toList := by
  induction records generalizing s with
  | nil => exact ⟨List.prefix_refl _, List.prefix_refl _⟩
  | cons r rest ih =>
    obtain ⟨full, effective⟩ := visit_extends t s r
    obtain ⟨fullRest, effectiveRest⟩ := ih (visit t s r)
    exact ⟨full.trans fullRest, effective.trans effectiveRest⟩

theorem lookUp_found (target : target? q = some t) :
    (lookUp records q).found = (search t records).matches := by
  simp [lookUp, target]

theorem lookUp_failure (target : target? q = some t) :
    (lookUp records q).failure = (search t records).failure := by
  simp [lookUp, target]

theorem lookUp_problems (target : target? q = some t) : (lookUp records q).problems = [] := by
  simp [lookUp, target]

/-- The matches among the first records come first among all matches. -/
theorem lookUp_prefix (target : target? q = some t) (before after : List Record) :
    (lookUp before q).found.full <+: (lookUp (before ++ after) q).found.full ∧
      (lookUp before q).found.effective <+: (lookUp (before ++ after) q).found.effective := by
  rw [lookUp_found target, lookUp_found target, search_append]
  exact foldl_visit_extends t (search t before) after

end AccessList.Lookup
