import AccessList.Proofs.Lookup.Scan
import Mathlib.Data.List.Infix

/-! Lists of records and how they touch each other in a look-up. All matches of a list are those among
its own records. Of the effective ones this holds for each unbroken stretch of the list, since the search
forgets that a list is shadowed as soon as it comes to a record of another. -/
namespace AccessList.Lookup

variable {t : Target} {s : Search} {r : Record} {q : Query} {records run : List Record}
  {list shadowed : String}

def Matches.ofList (m : Matches) (list : String) : Matches where
  full := m.full.filter (·.record.list = list)
  effective := m.effective.filter (·.record.list = list)

/-- What stands of a list between records of others, in order. -/
def stretches (list : String) (records : List Record) : List (List Record) :=
  records.splitOnP (·.list ≠ list)

/-- What is found by a search that sets out with a list shadowed. -/
def resume (t : Target) (shadowed : String) (records : List Record) : Matches :=
  (records.foldl (visit t) { shadowed }).matches

def Answers (t : Target) (records : List Record) : Prop := ∀ r ∈ records, ∃ b, isMatch t r = .ok b

theorem Matches.append_assoc (a b c : Matches) : (a.append b).append c = a.append (b.append c) := by
  simp [Matches.append]

theorem Matches.ofList_append (a b : Matches) :
    (a.append b).ofList list = (a.ofList list).append (b.ofList list) := by
  simp [Matches.append, Matches.ofList]

def Matches.one (m : Match) (isFull isEffective : Bool) : Matches where
  full := if isFull then [m] else []
  effective := if isEffective then [m] else []

theorem Matches.ofList_one_same {m : Match} {isFull isEffective : Bool} (same : m.record.list = list) :
    (Matches.one m isFull isEffective).ofList list = .one m isFull isEffective := by
  cases isFull <;> cases isEffective <;> simp [Matches.ofList, Matches.one, same]

theorem Matches.ofList_one_other {m : Match} {isFull isEffective : Bool} (other : m.record.list ≠ list) :
    (Matches.one m isFull isEffective).ofList list = {} := by
  cases isFull <;> cases isEffective <;> simp [Matches.ofList, Matches.one, other]

theorem matches_found (s : Search) (m : Match) (isFull isEffective : Bool) (shadowed : String) :
    (s.found m isFull isEffective shadowed).matches = s.matches.append (.one m isFull isEffective) := by
  cases isFull <;> cases isEffective <;> simp [Search.found, Search.matches, Matches.append, Matches.one]

theorem foldl_visit_matches (answers : Answers t records) (fine : s.failure = none) :
    (records.foldl (visit t) s).matches = s.matches.append (resume t s.shadowed records) := by
  induction records generalizing s with
  | nil => simp [resume, Search.matches, Matches.append]
  | cons r rest ih =>
    obtain ⟨⟨matched, answer⟩, answersRest⟩ := List.forall_mem_cons.mp answers
    have start : ({ shadowed := s.shadowed } : Search).failure = none := rfl
    rw [resume, List.foldl_cons, List.foldl_cons, visit_ok fine answer, visit_ok start answer,
      ih answersRest rfl, ih answersRest rfl, matches_found, matches_found, Matches.append_assoc]
    rfl

theorem resume_cons {matched : Bool} (answers : Answers t records) (answer : isMatch t r = .ok matched) :
    resume t shadowed (r :: records) =
      (Matches.one ⟨t.query.tag, r⟩ matched
        (matched && r.isActive && !({ shadowed } : Search).hides r.list)).append
      (resume t (if matched && shadows t.query r then r.list
        else if shadowed = r.list then shadowed else "") records) := by
  have start : ({ shadowed } : Search).failure = none := rfl
  rw [resume, List.foldl_cons, visit_ok start answer, foldl_visit_matches answers rfl, matches_found]
  rfl

/-- What is shadowed makes no difference to a list that it is not. -/
theorem resume_of_ne (one : ∀ r ∈ run, r.list = list) (shown : shadowed ≠ list ∨ shadowed = "") :
    resume t shadowed run = resume t "" run := by
  cases run with
  | nil => rfl
  | cons r rest =>
    obtain rfl : r.list = list := one r (by simp)
    rcases shown with differ | rfl
    · have forgets : visit t { shadowed } r = visit t { shadowed := "" } r := by
        by_cases unnamed : "" = r.list <;> simp [visit, differ, unnamed]
      rw [resume, resume, List.foldl_cons, List.foldl_cons, forgets]
    · rfl

theorem stretches_cons_other (other : r.list ≠ list) :
    stretches list (r :: records) = [] :: stretches list records := by
  simp [stretches, List.splitOnP_cons_eq_if_modifyHead, other]

theorem stretches_cons_same (same : r.list = list) :
    stretches list (r :: records) = (stretches list records).modifyHead (r :: ·) := by
  simp [stretches, List.splitOnP_cons_eq_if_modifyHead, same]

theorem stretches_eq_cons (list : String) (records : List Record) :
    ∃ first rest, stretches list records = first :: rest ∧
      (∀ r ∈ first, r.list = list) ∧ first ⊆ records := by
  induction records with
  | nil => exact ⟨[], [], rfl, by simp, by simp⟩
  | cons r records ih =>
    by_cases same : r.list = list
    · obtain ⟨first, rest, split, one, among⟩ := ih
      refine ⟨r :: first, rest, by rw [stretches_cons_same same, split]; rfl, ?_, ?_⟩
      · exact List.forall_mem_cons.mpr ⟨same, one⟩
      · exact List.cons_subset_cons r among
    · exact ⟨[], _, stretches_cons_other same, by simp, by simp⟩

theorem ofList_full (answers : Answers t records) (list shadowed other : String) :
    ((resume t shadowed records).ofList list).full =
      (resume t other (records.filter (·.list = list))).full := by
  induction records generalizing shadowed other with
  | nil => rfl
  | cons r records ih =>
    obtain ⟨⟨matched, answer⟩, answersRest⟩ := List.forall_mem_cons.mp answers
    rw [resume_cons answersRest answer, Matches.ofList_append]
    by_cases same : r.list = list
    · have answersOwn : Answers t (records.filter (·.list = list)) :=
        fun d member => answersRest d (List.mem_of_mem_filter member)
      rw [List.filter_cons_of_pos (by simpa using same), resume_cons answersOwn answer,
        Matches.ofList_one_same same]
      simp only [Matches.append, Matches.one]
      exact congrArg (_ ++ ·) (ih answersRest _ _)
    · rw [List.filter_cons_of_neg (by simpa using same), Matches.ofList_one_other same]
      exact ih answersRest _ _

/-- The effective matches of a list are those of its stretches, of which only the first knows what was
shadowed before. -/
theorem ofList_effective (answers : Answers t records) (list shadowed : String) {first : List Record}
    {rest : List (List Record)} (split : stretches list records = first :: rest) :
    ((resume t shadowed records).ofList list).effective =
      (resume t shadowed first).effective ++ rest.flatMap fun run => (resume t "" run).effective := by
  induction records generalizing shadowed first rest with
  | nil =>
    obtain ⟨rfl, rfl⟩ : [] = first ∧ [] = rest := List.cons.inj split
    rfl
  | cons r records ih =>
    obtain ⟨⟨matched, answer⟩, answersRest⟩ := List.forall_mem_cons.mp answers
    obtain ⟨next, later, splitRest, one, among⟩ := stretches_eq_cons list records
    rw [resume_cons answersRest answer, Matches.ofList_append]
    by_cases same : r.list = list
    · rw [stretches_cons_same same, splitRest] at split
      obtain ⟨rfl, rfl⟩ : r :: next = first ∧ later = rest := List.cons.inj split
      have answersNext : Answers t next := fun d member => answersRest d (among member)
      rw [resume_cons answersNext answer, Matches.ofList_one_same same]
      simp only [Matches.append, ih answersRest _ splitRest, List.append_assoc]
    · rw [stretches_cons_other same, splitRest] at split
      obtain ⟨rfl, rfl⟩ : [] = first ∧ next :: later = rest := List.cons.inj split
      -- After a record of another list, nothing that is shadowed hides this one.
      have shown : (if matched && shadows t.query r then r.list
          else if shadowed = r.list then shadowed else "") ≠ list ∨
          (if matched && shadows t.query r then r.list
          else if shadowed = r.list then shadowed else "") = "" := by
        grind
      rw [Matches.ofList_one_other same]
      simp only [Matches.append, ih answersRest _ splitRest, resume_of_ne one shown, List.nil_append,
        List.flatMap_cons]
      rfl

theorem foldl_visit_failed (records : List Record) (stopped : s.failure.isSome = true) :
    (records.foldl (visit t) s).failure.isSome = true := by
  induction records with
  | nil => exact stopped
  | cons r rest ih =>
    have stays : visit t s r = s := by simp [visit, stopped]
    rw [List.foldl_cons, stays]
    exact ih

theorem answers_of_fine (fine : (records.foldl (visit t) s).failure = none) : Answers t records := by
  induction records generalizing s with
  | nil => simp [Answers]
  | cons r rest ih =>
    refine List.forall_mem_cons.mpr ⟨?_, ih fine⟩
    cases answer : isMatch t r with
    | ok matched => exact ⟨matched, rfl⟩
    | error cause =>
      have stopped : (visit t s r).failure.isSome = true := by
        by_cases already : s.failure.isSome = true <;> simp [visit, already, answer]
      have ends := foldl_visit_failed (t := t) rest stopped
      rw [List.foldl_cons] at fine
      simp [fine] at ends

theorem search_fine (answers : Answers t records) (fine : s.failure = none) :
    (records.foldl (visit t) s).failure = none := by
  induction records generalizing s with
  | nil => exact fine
  | cons r rest ih =>
    obtain ⟨⟨matched, answer⟩, answersRest⟩ := List.forall_mem_cons.mp answers
    rw [List.foldl_cons, visit_ok fine answer]
    exact ih answersRest rfl

theorem flatMap_stretches_others {α : Type} {f : List Record → List α} (empty : f [] = [])
    (others : ∀ r ∈ records, r.list ≠ list) (rest : List Record) :
    (stretches list (records ++ rest)).flatMap f = (stretches list rest).flatMap f := by
  induction records with
  | nil => rfl
  | cons r records ih =>
    obtain ⟨other, othersRest⟩ := List.forall_mem_cons.mp others
    rw [List.cons_append, stretches_cons_other other, List.flatMap_cons, empty, List.nil_append,
      ih othersRest]

theorem stretches_append_same (one : ∀ r ∈ run, r.list = list) (rest : List Record) :
    stretches list (run ++ rest) = (stretches list rest).modifyHead (run ++ ·) := by
  induction run with
  | nil =>
    rw [List.nil_append]
    cases stretches list rest <;> rfl
  | cons r run ih =>
    obtain ⟨same, sameRest⟩ := List.forall_mem_cons.mp one
    rw [List.cons_append, stretches_cons_same same, ih sameRest, List.modifyHead_modifyHead]
    rfl

/-- A list whose records stand together has one stretch that is not empty. -/
theorem flatMap_stretches {α : Type} {f : List Record → List α} (empty : f [] = [])
    {before after : List Record} (one : ∀ r ∈ run, r.list = list)
    (othersBefore : ∀ r ∈ before, r.list ≠ list) (othersAfter : ∀ r ∈ after, r.list ≠ list) :
    (stretches list (before ++ (run ++ after))).flatMap f = f run := by
  have nothing := flatMap_stretches_others empty othersAfter []
  obtain ⟨first, rest, split, oneFirst, among⟩ := stretches_eq_cons list after
  obtain rfl : first = [] :=
    List.eq_nil_iff_forall_not_mem.mpr fun r member => othersAfter r (among member) (oneFirst r member)
  rw [List.append_nil, split, List.flatMap_cons, empty, List.nil_append] at nothing
  have quiet : rest.flatMap f = [] := by simpa [stretches, empty] using nothing
  rw [flatMap_stretches_others empty othersBefore, stretches_append_same one, split]
  simp [quiet]

theorem others_of_infix {before after : List Record}
    (whole : records = before ++ (records.filter (·.list = list) ++ after)) :
    (∀ r ∈ before, r.list ≠ list) ∧ ∀ r ∈ after, r.list ≠ list := by
  have own := congrArg (List.filter (·.list = list)) whole
  rw [List.filter_append, List.filter_append, List.filter_filter] at own
  have lengths := congrArg List.length own
  simp only [List.length_append, Bool.and_self] at lengths
  have none (part : List Record) (empty : (part.filter (·.list = list)).length = 0) :
      ∀ r ∈ part, r.list ≠ list := by
    simpa [List.filter_eq_nil_iff] using empty
  exact ⟨none before (by omega), none after (by omega)⟩

theorem lookUp_of_target (target : target? q = some t) (records : List Record) :
    (lookUp records q).found = resume t "" records := by
  rw [lookUp_found target]
  rfl

/-- Of a look-up that ends without a failure, all matches of a list are those of the look-up in its own
records. Its effective matches are those of a look-up in each of its stretches, and so those of the
look-up in its own records where these stand together. -/
theorem lists_separate (records : List Record) (q : Query) (list : String)
    (fine : (lookUp records q).failure = none) :
    let own := records.filter (·.list = list)
    (lookUp own q).failure = none ∧
      ((lookUp records q).found.ofList list).full = (lookUp own q).found.full ∧
      ((lookUp records q).found.ofList list).effective =
        (stretches list records).flatMap (fun run => (lookUp run q).found.effective) ∧
      (own <:+: records →
        ((lookUp records q).found.ofList list).effective = (lookUp own q).found.effective) := by
  intro own
  cases target : target? q with
  | none => simp [lookUp, target, Matches.ofList]
  | some t =>
    rw [lookUp_failure target] at fine
    have answers : Answers t records := answers_of_fine fine
    have answersOwn : Answers t own := fun r member => answers r (List.mem_of_mem_filter member)
    obtain ⟨first, rest, split, _, _⟩ := stretches_eq_cons list records
    have effective : ((lookUp records q).found.ofList list).effective =
        (stretches list records).flatMap fun run => (lookUp run q).found.effective := by
      simp only [lookUp_of_target target, ofList_effective answers list "" split, split,
        List.flatMap_cons]
    refine ⟨?_, ?_, effective, ?_⟩
    · rw [lookUp_failure target]
      exact search_fine answersOwn rfl
    · rw [lookUp_of_target target, lookUp_of_target target]
      exact ofList_full answers list "" ""
    · rintro ⟨before, after, whole⟩
      rw [List.append_assoc] at whole
      have one : ∀ r ∈ own, r.list = list := by simp [own]
      obtain ⟨othersBefore, othersAfter⟩ := others_of_infix whole.symm
      have empty : (lookUp [] q).found.effective = [] := by
        rw [lookUp_of_target target]
        rfl
      rw [effective, ← whole]
      exact flatMap_stretches empty one othersBefore othersAfter

/-- The records of one list, and after them one of another. -/
theorem lists_separate_together :
    let d : Record := { list := "inside", action := "deny", protocol := "ip", source := "0/0",
                        destination := "0/0" }
    let r : Record := { list := "inside", action := "permit", source := "0/0", destination := "0/0" }
    let o : Record := { list := "outside", action := "permit", source := "0/0", destination := "0/0" }
    let q : Query := ⟨⟨"10.0.0.1/32", .v4⟩, {}⟩
    (lookUp [d, r, o] q).failure = none ∧ [d, r, o].filter (·.list = "inside") = [d, r] ∧
      ((lookUp [d, r, o] q).found.ofList "inside").full = (lookUp [d, r] q).found.full ∧
      ((lookUp [d, r, o] q).found.ofList "inside").effective = (lookUp [d, r] q).found.effective := by
  intro d r o q
  have fine : (lookUp [d, r, o] q).failure = none := by decide +kernel
  have own : [d, r, o].filter (·.list = "inside") = [d, r] := by decide +kernel
  obtain ⟨_, full, _, together⟩ := lists_separate [d, r, o] q "inside" fine
  rw [own] at full together
  exact ⟨fine, own, full, together ⟨[], [o], rfl⟩⟩

/-- A record of another list between a denial of everything and a permit: the permit takes effect, as it
does not in the list on its own. -/
theorem shadow_lost_between_lists :
    let d : Record := { list := "inside", action := "deny", protocol := "ip", source := "0/0",
                        destination := "0/0" }
    let r : Record := { list := "inside", action := "permit", protocol := "ip", source := "0/0",
                        destination := "0/0" }
    let o : Record := { list := "outside", action := "permit", protocol := "ip", source := "0/0",
                        destination := "0/0" }
    let q : Query := ⟨⟨"10.0.0.1/32", .v4⟩, {}⟩
    (lookUp [d, o, r] q).failure = none ∧ (lookUp [d, r] q).failure = none ∧
      [d, o, r].filter (·.list = "inside") = [d, r] ∧
      ((lookUp [d, o, r] q).found.ofList "inside").effective ≠ (lookUp [d, r] q).found.effective := by
  decide +kernel

end AccessList.Lookup
