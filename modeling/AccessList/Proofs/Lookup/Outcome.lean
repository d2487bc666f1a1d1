import AccessList.Lookup.Search
import AccessList.Proofs.Ledger
import Mathlib.Data.List.Basic

/-! Outcomes one after another. An outcome that finds nothing and notes nothing changes no other, and the
order in which outcomes are taken together does not matter. Look-ups in a row come to what each of them
comes to, as long as none of them fails. -/
namespace AccessList.Lookup

variable {α : Type} {f : α → Outcome} {x : α} {xs ys : List α} {a : Outcome} {b c : Unit → Outcome}

theorem warnings_problems (problems : List Problem) :
    Diagnostics.warnings (problems.map Problem.diagnostic) = problems.map Problem.message := by
  rw [Diagnostics.warnings_eq]
  induction problems with
  | nil => rfl
  | cons problem problems ih => exact congrArg (problem.message :: ·) ih

namespace Outcome

def warnings (o : Outcome) : List String := Diagnostics.warnings (o.problems.map Problem.diagnostic)

theorem andThen_of_fine (fine : a.failure = none) :
    a.andThen b = ⟨a.found.append (b ()).found, a.problems ++ (b ()).problems, (b ()).failure⟩ := by
  simp [andThen, fine]

theorem andThen_of_failed (failed : a.failure ≠ none) : a.andThen b = a := by
  simp [andThen, Option.isSome_iff_ne_none.mpr failed]

theorem failure_andThen : (a.andThen b).failure = none ↔ a.failure = none ∧ (b ()).failure = none := by
  cases failure : a.failure <;> simp [andThen, failure]

theorem empty_andThen : ({} : Outcome).andThen b = b () := by
  rw [andThen_of_fine rfl]
  rfl

theorem andThen_empty : a.andThen (fun _ => {}) = a := by
  by_cases fine : a.failure = none
  · rw [andThen_of_fine fine]
    simp [Matches.append, ← fine]
  · exact andThen_of_failed fine

theorem andThen_assoc : (a.andThen b).andThen c = a.andThen fun _ => (b ()).andThen c := by
  cases first : a.failure <;> cases second : (b ()).failure <;>
    simp [andThen, first, second, Matches.append]

end Outcome

open Outcome

/-- What look-ups in a row come to, up to the first that fails. -/
def accumulate (f : α → Outcome) (xs : List α) : Outcome :=
  xs.foldl (fun sofar x => sofar.andThen fun _ => f x) {}

theorem lookUpLines_eq (records : List Record) (lines : List String) :
    lookUpLines records lines = accumulate (lookUpLine records) lines := rfl

theorem foldl_andThen (a : Outcome) (xs : List α) :
    xs.foldl (fun sofar x => sofar.andThen fun _ => f x) a = a.andThen fun _ => accumulate f xs := by
  induction xs generalizing a with
  | nil => exact andThen_empty.symm
  | cons x xs ih => rw [accumulate, List.foldl_cons, List.foldl_cons, ih, ih, empty_andThen, andThen_assoc]

theorem accumulate_cons : accumulate f (x :: xs) = (f x).andThen fun _ => accumulate f xs := by
  rw [accumulate, List.foldl_cons, foldl_andThen, empty_andThen]

theorem accumulate_append : accumulate f (xs ++ ys) = (accumulate f xs).andThen fun _ => accumulate f ys := by
  rw [accumulate, List.foldl_append, foldl_andThen]
  rfl

/-- What comes to nothing can be left out. -/
theorem accumulate_filter {keep : α → Bool} (idle : ∀ x ∈ xs, keep x = false → f x = {}) :
    accumulate f (xs.filter keep) = accumulate f xs := by
  induction xs with
  | nil => rfl
  | cons x xs ih =>
    have rest := ih fun y member => idle y (List.mem_cons_of_mem x member)
    cases kept : keep x with
    | true => rw [List.filter_cons_of_pos kept, accumulate_cons, accumulate_cons, rest]
    | false =>
      rw [List.filter_cons_of_neg (Bool.eq_false_iff.mp kept), accumulate_cons,
        idle x List.mem_cons_self kept, empty_andThen, rest]

theorem accumulate_failure_iff : (accumulate f xs).failure = none ↔ ∀ x ∈ xs, (f x).failure = none := by
  induction xs with
  | nil => simp [accumulate]
  | cons x xs ih => rw [accumulate_cons, failure_andThen, ih, List.forall_mem_cons]

theorem accumulate_problems (fine : (accumulate f xs).failure = none) :
    (accumulate f xs).problems = xs.flatMap fun x => (f x).problems := by
  induction xs with
  | nil => rfl
  | cons x xs ih =>
    rw [accumulate_cons, failure_andThen] at fine
    rw [accumulate_cons, andThen_of_fine fine.1, ih fine.2, List.flatMap_cons]

end AccessList.Lookup
