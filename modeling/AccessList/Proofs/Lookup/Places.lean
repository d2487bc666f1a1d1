import AccessList.Proofs.Lookup.Expansion
import AccessList.Proofs.Lookup.Outcome
import Mathlib.Data.List.DropRight

/-! What a look-up finds, told from the places of the records. The matches are the records whose fields hold what is
asked for, in their order. A match takes effect if it is active and no match before it denies all traffic of
the query, as far back as the records are all of its list. -/
namespace AccessList.Lookup

variable {t : Target} {s : Search} {r d : Record} {q : Query} {before records : List Record} {list : String}

/-- A match that denies all traffic of the query comes before, and from it on all records are of a list. -/
def IsShadowed (t : Target) (before : List Record) (list : String) : Prop :=
  ∃ first d rest, before = first ++ d :: rest ∧ (∀ e ∈ d :: rest, e.list = list) ∧
    t.IsHeldBy d ∧ shadows t.query d = true

def places (records : List Record) : List (List Record × Record) :=
  records.zipIdx.map fun (r, i) => (records.take i, r)

theorem isShadowed_nil : ¬ IsShadowed t [] list := by
  rintro ⟨first, d, rest, split, _⟩
  simp at split

/-- One more record shadows its list, or leaves its list shadowed and no other. -/
theorem isShadowed_concat : IsShadowed t (before ++ [r]) list ↔
    r.list = list ∧ (t.IsHeldBy r ∧ shadows t.query r = true ∨ IsShadowed t before list) := by
  constructor
  · rintro ⟨first, d, rest, split, one, held, shadowing⟩
    induction rest using List.reverseRecOn with
    | nil =>
      obtain ⟨rfl, same⟩ := List.append_inj' split rfl
      obtain rfl : r = d := by simpa using same
      exact ⟨one r (by simp), .inl ⟨held, shadowing⟩⟩
    | append_singleton rest last _ =>
      rw [← List.cons_append, ← List.append_assoc] at split
      obtain ⟨rfl, same⟩ := List.append_inj' split rfl
      obtain rfl : r = last := by simpa using same
      refine ⟨one r (by simp), .inr ⟨first, d, rest, rfl, fun e member => ?_, held, shadowing⟩⟩
      exact one e (by simpa [← or_assoc] using .inl (by simpa using member))
  · rintro ⟨same, ⟨held, shadowing⟩ | ⟨first, d, rest, rfl, one, held, shadowing⟩⟩
    · exact ⟨before, r, [], rfl, by simpa using same, held, shadowing⟩
    · refine ⟨first, d, rest ++ [r], by simp, fun e member => ?_, held, shadowing⟩
      rw [← List.cons_append, List.mem_append, List.mem_singleton] at member
      exact member.elim (one e) fun last => last ▸ same

/-- The records that count are those of the list at the end. -/
theorem isShadowed_iff_run : IsShadowed t before list ↔
    ∃ d ∈ before.rtakeWhile (·.list = list), t.IsHeldBy d ∧ shadows t.query d = true := by
  induction before using List.reverseRecOn with
  | nil => simp [isShadowed_nil]
  | append_singleton before r ih =>
    rw [isShadowed_concat, ih, List.rtakeWhile_concat]
    by_cases same : r.list = list
    · simp [same, or_and_right, exists_or, or_comm]
    · simp [same]

instance (t : Target) (before : List Record) (list : String) : Decidable (IsShadowed t before list) :=
  decidable_of_iff _ isShadowed_iff_run.symm

theorem places_concat (records : List Record) (r : Record) :
    places (records ++ [r]) = places records ++ [(records, r)] := by
  have earlier : records.zipIdx.map (fun (e, i) => ((records ++ [r]).take i, e)) = places records := by
    refine List.map_congr_left fun (e, i) member => ?_
    have bound : i < records.length := List.snd_lt_of_mem_zipIdx member
    simp [List.take_append_of_le_length (Nat.le_of_lt bound)]
  rw [places, List.zipIdx_append, List.map_append, earlier]
  simp

theorem hides_visit_iff (fine : s.failure = none) (answers : ∃ b, isMatch t r = .ok b) (named : r.list ≠ "") :
    (visit t s r).hides list = true ↔
      r.list = list ∧ (t.IsHeldBy r ∧ shadows t.query r = true ∨ s.hides list = true) := by
  rw [visit_ok fine (isMatch_eq answers)]
  by_cases start : t.IsHeldBy r ∧ shadows t.query r = true
  · simp [Search.hides, Search.found, start, named]
  · by_cases same : r.list = list
    · subst same
      by_cases kept : s.shadowed = r.list <;> simp [Search.hides, Search.found, start, kept, named]
    · have other : ¬ (s.shadowed = r.list ∧ s.shadowed = list) := fun both => same (both.1.symm.trans both.2)
      by_cases kept : s.shadowed = r.list <;> simp_all [Search.hides, Search.found]

theorem search_hides_iff_isShadowed (answers : Answers t before) (named : ∀ r ∈ before, r.list ≠ "") :
    (search t before).hides list = true ↔ IsShadowed t before list := by
  induction before using List.reverseRecOn with
  | nil => simp [search, Search.hides, isShadowed_nil]
  | append_singleton before r ih =>
    have earlier : Answers t before := fun e member => answers e (List.mem_append_left _ member)
    have fine : (search t before).failure = none := search_fine earlier rfl
    rw [search_concat, hides_visit_iff fine (answers r (by simp)) (named r (by simp)),
      isShadowed_concat, ih earlier fun e member => named e (List.mem_append_left _ member)]

/-- One more record is one match more, if it is held, which takes effect if it is active and not shadowed. -/
theorem resume_concat (answers : Answers t (records ++ [r])) (named : ∀ d ∈ records, d.list ≠ "") :
    resume t "" (records ++ [r]) = (resume t "" records).append
      (.one ⟨t.query.tag, r⟩ (t.IsHeldBy r)
        (t.IsHeldBy r ∧ r.isActive = true ∧ ¬ IsShadowed t records r.list)) := by
  have earlier : Answers t records := fun e member => answers e (List.mem_append_left _ member)
  have fine : (search t records).failure = none := search_fine earlier rfl
  have found (all : List Record) : resume t "" all = (search t all).matches := rfl
  have hidden : (search t records).hides r.list = decide (IsShadowed t records r.list) :=
    Bool.eq_iff_iff.mpr ((search_hides_iff_isShadowed earlier named).trans decide_eq_true_iff.symm)
  rw [found, found, search_concat, visit_ok fine (isMatch_eq (answers r (by simp))), matches_found, hidden]
  simp [Bool.and_assoc]

theorem effective_resume (answers : Answers t records) (named : ∀ r ∈ records, r.list ≠ "") :
    (resume t "" records).effective = ((places records).filter fun p =>
      t.IsHeldBy p.2 ∧ p.2.isActive = true ∧ ¬ IsShadowed t p.1 p.2.list).map (⟨t.query.tag, ·.2⟩) := by
  induction records using List.reverseRecOn with
  | nil => rfl
  | append_singleton records r ih =>
    have namedEarlier : ∀ d ∈ records, d.list ≠ "" := fun d member => named d (List.mem_append_left _ member)
    have earlier := ih (fun d member => answers d (List.mem_append_left _ member)) namedEarlier
    rw [resume_concat answers namedEarlier, places_concat, List.filter_append, List.map_append, ← earlier]
    by_cases takes : t.IsHeldBy r ∧ r.isActive = true ∧ ¬ IsShadowed t records r.list <;>
      simp [Matches.append, Matches.one, takes]

theorem one_sublist (m : Match) (isFull takes : Bool) :
    (Matches.one m isFull (isFull && takes)).effective.Sublist (Matches.one m isFull (isFull && takes)).full := by
  cases isFull <;> cases takes <;> simp [Matches.one]

theorem effective_sublist (records : List Record) (q : Query) :
    (lookUp records q).found.effective.Sublist (lookUp records q).found.full := by
  cases target : target? q with
  | none => simp [lookUp, target]
  | some t =>
    rw [lookUp_found target]
    induction records using List.reverseRecOn with
    | nil => exact List.Sublist.slnil
    | append_singleton records r ih =>
      rw [search_concat]
      by_cases fine : (search t records).failure = none
      · cases answer : isMatch t r with
        | error cause =>
          by_cases same : (search t records).shadowed = r.list <;>
            simpa [visit, fine, answer, same, Search.matches] using ih
        | ok matched =>
          have last := one_sublist ⟨t.query.tag, r⟩ matched (r.isActive && !(search t records).hides r.list)
          rw [← Bool.and_assoc] at last
          rw [visit_ok fine answer, matches_found]
          exact ih.append last
      · have failed : (search t records).failure.isSome = true := Option.isSome_iff_ne_none.mpr fine
        simpa [visit, failed] using ih

/-- What a look-up finds. The matches are the records whose fields hold what is asked for, in order. The effective
ones are those of them that are active and not shadowed at their place. They are added to what has been found
before. -/
theorem lookUp_found_places (target : target? q = some t) (answers : Answers t records)
    (named : ∀ r ∈ records, r.list ≠ "") :
    let found := (lookUp records q).found
    (lookUp records q).failure = none ∧ (lookUp records q).problems = [] ∧
      found.full = (records.filter fun r => t.IsHeldBy r).map (⟨q.tag, ·⟩) ∧
      found.effective = ((places records).filter fun p =>
        t.IsHeldBy p.2 ∧ p.2.isActive = true ∧ ¬ IsShadowed t p.1 p.2.list).map (⟨q.tag, ·.2⟩) ∧
      found.effective.Sublist found.full ∧
      (∀ earlier : Search, earlier.failure = none → earlier.shadowed = "" →
        (records.foldl (visit t) earlier).matches = earlier.matches.append found) ∧
      ∀ earlier : Outcome, earlier.failure = none →
        (earlier.andThen fun _ => lookUp records q).found = earlier.found.append found := by
  intro found
  have same : found = resume t "" records := lookUp_of_target target records
  obtain rfl := target?_query target
  refine ⟨(lookUp_failure target).trans (search_fine answers rfl), lookUp_problems target, ?_, ?_,
    effective_sublist records _, fun earlier fine start => ?_, fun earlier fine => ?_⟩
  · rw [same, resume_full fun r member => isMatch_eq (answers r member)]
  · rw [same, effective_resume answers named]
  · rw [foldl_visit_matches answers fine, start, same]
  · exact congrArg Outcome.found (Outcome.andThen_of_fine fine)

/-- A denial hides the permit after it in its list, and no longer the one that comes after a record of another list. -/
theorem lookUp_found_places_hosts :
    let d : Record := { list := "inside", line := 1, action := "deny", protocol := "ip", source := "10.0.0.0/8"
                        destination := "0/0" }
    let r : Record := { list := "inside", line := 2, action := "permit", source := "0/0", destination := "0/0" }
    let o : Record := { list := "outside", line := 1, action := "permit", source := "10.0.0.1/32" }
    let late : Record := { r with line := 3 }
    let q : Query := ⟨⟨"10.0.0.1/32", .v4⟩, {}⟩
    let t : Target := ⟨q, "10.0.0.1/32", ""⟩
    let records := [d, r, o, late]
    target? q = some t ∧ Answers t records ∧ (∀ r ∈ records, r.list ≠ "") ∧
      IsShadowed t [d] r.list ∧ ¬ IsShadowed t [d, r, o] late.list ∧
      (lookUp records q).found.full = records.map (⟨q.tag, ·⟩) ∧
      (lookUp records q).found.effective = [d, o, late].map (⟨q.tag, ·⟩) := by
  intro d r o late q t records
  have target : target? q = some t := by rfl
  have answers : Answers t records := answers_of_fine (s := {}) (by decide +kernel)
  have named : ∀ r ∈ records, r.list ≠ "" := by decide
  obtain ⟨_, _, full, effective, _⟩ := lookUp_found_places target answers named
  refine ⟨target, answers, named, by decide +kernel, by decide +kernel, ?_, ?_⟩
  · rw [full]
    decide +kernel
  · rw [effective]
    decide +kernel

end AccessList.Lookup
