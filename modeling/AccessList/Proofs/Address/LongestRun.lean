import AccessList.Address.Hextets
import Mathlib.Data.List.Infix

/-! The run of zeros that one pass over the groups finds. The run before the place of the pass is the longest one
that ends there, and the best run is the first of the longest so far. -/
namespace AccessList.Address.Hextets

variable {gs done before after b t : List Nat} {g l length : Nat} {p : Pass}

/-- Groups taken apart around the first of the longest runs of zeros among them. -/
structure IsLongestRun (gs before : List Nat) (length : Nat) (after : List Nat) : Prop where
  run : gs = before ++ List.replicate length 0 ++ after
  longest : ∀ b l t, gs = b ++ List.replicate l 0 ++ t → l ≤ length
  first : ∀ b t, gs = b ++ List.replicate length 0 ++ t → before.length ≤ b.length

theorem length_of_run (run : gs = b ++ List.replicate l 0 ++ t) : gs.length = b.length + l + t.length := by
  rw [run, List.length_append, List.length_append, List.length_replicate]

theorem run_concat (run : done ++ [g] = b ++ List.replicate l 0 ++ t) :
    (∃ t', done = b ++ List.replicate l 0 ++ t') ∨ t = [] := by
  rcases List.eq_nil_or_concat t with rfl | ⟨t', last, rfl⟩
  · exact .inr rfl
  · rw [List.concat_eq_append, ← List.append_assoc] at run
    exact .inl ⟨t', (List.append_inj' run rfl).1⟩

theorem zeros_concat : List.replicate (l + 1) 0 <:+ done ++ [g] ↔ g = 0 ∧ List.replicate l 0 <:+ done := by
  rw [List.replicate_succ', List.suffix_concat_iff]
  constructor
  · rintro (none | ⟨zeros, same, ends⟩)
    · simp at none
    · obtain ⟨rfl, last⟩ := List.append_inj' same rfl
      exact ⟨(List.singleton_inj.mp last).symm, ends⟩
  · rintro ⟨rfl, ends⟩
    exact .inr ⟨_, rfl, ends⟩

/-- One more group makes no difference to a run that is as long as the one it ends. -/
theorem IsLongestRun.stays (best : IsLongestRun done before length after)
    (ends : ∀ l, List.replicate l 0 <:+ done ++ [g] → l ≤ length) :
    IsLongestRun (done ++ [g]) before length (after ++ [g]) where
  run := by
    rw [← List.append_assoc]
    exact congrArg (· ++ [g]) best.run
  longest b l t run := by
    rcases run_concat run with ⟨t', inside⟩ | rfl
    · exact best.longest b l t' inside
    · exact ends l ⟨b, by rw [run, List.append_nil]⟩
  first b t run := by
    rcases run_concat run with ⟨t', inside⟩ | rfl
    · exact best.first b t' inside
    · have found := length_of_run best.run
      have last := length_of_run run
      rw [List.length_append, List.length_singleton, List.length_nil] at last
      omega

/-- A run that ends with one more group takes over if it is longer than all before. -/
theorem IsLongestRun.overtaken (best : IsLongestRun done before length after) (longer : length < l)
    (ends : ∀ l', List.replicate l' 0 <:+ done ++ [g] ↔ l' ≤ l) :
    ∃ b, b.length + l = done.length + 1 ∧ IsLongestRun (done ++ [g]) b l [] := by
  obtain ⟨b, taken⟩ := (ends l).mpr (Nat.le_refl l)
  have run : done ++ [g] = b ++ List.replicate l 0 ++ [] := by rw [List.append_nil, taken]
  have last := length_of_run run
  rw [List.length_append, List.length_singleton, List.length_nil] at last
  refine ⟨b, last.symm, run, fun b' l' t run' => ?_, fun b' t run' => ?_⟩
  · rcases run_concat run' with ⟨t', inside⟩ | rfl
    · exact (best.longest b' l' t' inside).trans longer.le
    · exact (ends l').mp ⟨b', by rw [run', List.append_nil]⟩
  · rcases run_concat run' with ⟨t', inside⟩ | rfl
    · exact absurd (best.longest b' l t' inside) (Nat.not_le.mpr longer)
    · -- no run before is as long, so that this one ends where the new one does
      have last' := length_of_run run'
      rw [List.length_append, List.length_singleton, List.length_nil] at last'
      omega

/-- What a pass knows of the groups that are done. -/
structure Passed (done : List Nat) (p : Pass) : Prop where
  place : p.place = done.length
  ends : ∀ l, List.replicate l 0 <:+ done ↔ l ≤ p.current.length
  reaches : 0 < p.current.length → p.current.start + p.current.length = done.length
  best : ∃ before after, before.length = p.best.start ∧ IsLongestRun done before p.best.length after

theorem passed_nil : Passed [] {} where
  place := rfl
  ends l := by simp
  reaches := nofun
  best := ⟨[], [], rfl, rfl, fun b l t run => by simp_all, fun _ _ _ => Nat.zero_le _⟩

theorem Pass.length_grown (p : Pass) : p.grown.length = p.current.length + 1 := by
  rw [grown]
  split
  · next none => rw [none]
  · rfl

theorem Passed.reaches_grown (passed : Passed done p) : p.grown.start + p.grown.length = done.length + 1 := by
  rw [Pass.grown, ← passed.place]
  split
  · rfl
  · next given => rw [← Nat.add_assoc, passed.reaches (Nat.pos_of_ne_zero given), passed.place]

theorem Passed.zero (passed : Passed done p) : Passed (done ++ [0]) (p.step 0) := by
  have ends (l : Nat) : List.replicate l 0 <:+ done ++ [0] ↔ l ≤ p.grown.length := by
    cases l with
    | zero => simp
    | succ l => rw [zeros_concat, passed.ends l, p.length_grown, Nat.succ_le_succ_iff, and_iff_right rfl]
  rw [Pass.step, if_pos rfl]
  refine ⟨?_, ends, fun _ => ?_, ?_⟩
  · rw [List.length_append, List.length_singleton, passed.place]
  · rw [List.length_append, List.length_singleton, passed.reaches_grown]
  · obtain ⟨before, after, start, best⟩ := passed.best
    dsimp only
    split
    · next longer =>
      obtain ⟨b, last, overtaken⟩ := best.overtaken longer ends
      have reached := passed.reaches_grown
      rw [← last] at reached
      exact ⟨b, [], (Nat.add_right_cancel reached).symm, overtaken⟩
    · next shorter =>
      exact ⟨before, after ++ [0], start, best.stays fun l last => ((ends l).mp last).trans (Nat.le_of_not_lt shorter)⟩

theorem Passed.other (passed : Passed done p) (other : g ≠ 0) : Passed (done ++ [g]) (p.step g) := by
  have ends (l : Nat) : List.replicate l 0 <:+ done ++ [g] ↔ l ≤ 0 := by
    cases l with
    | zero => simp
    | succ l => simp [zeros_concat, other]
  obtain ⟨before, after, start, best⟩ := passed.best
  rw [Pass.step, if_neg other]
  refine ⟨?_, ends, nofun, before, after ++ [g], start, best.stays fun l last => ?_⟩
  · rw [List.length_append, List.length_singleton, passed.place]
  · exact ((ends l).mp last).trans (Nat.zero_le _)

theorem passed_pass (gs : List Nat) : Passed gs (pass gs) := by
  induction gs using List.reverseRecOn with
  | nil => exact passed_nil
  | append_singleton done g ih =>
    rw [pass, List.foldl_append]
    by_cases zero : g = 0
    · subst zero
      exact ih.zero
    · exact ih.other zero

theorem isLongestRun (gs : List Nat) :
    IsLongestRun gs (gs.take (longestRun gs).start) (longestRun gs).length
      (gs.drop ((longestRun gs).start + (longestRun gs).length)) := by
  obtain ⟨before, after, start, best⟩ := (passed_pass gs).best
  rw [← longestRun] at start best
  generalize longestRun gs = found at start best ⊢
  have taken : gs.take found.start = before := by
    rw [← start, best.run, List.append_assoc]
    exact List.take_left
  have dropped : gs.drop (found.start + found.length) = after := by
    have length : found.start + found.length = (before ++ List.replicate found.length 0).length := by
      rw [List.length_append, List.length_replicate, start]
    rw [length, best.run]
    exact List.drop_left
  rw [taken, dropped]
  exact best

end AccessList.Address.Hextets
