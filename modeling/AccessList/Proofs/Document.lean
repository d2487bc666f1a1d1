import AccessList.Document.Reader
import Mathlib.Data.List.Nodup

/-! Documents with each key once. A mapping that is put together one entry at a time has each key once, and the
reader of documents makes no others. -/
namespace AccessList

open Document

def Document.Value.entries : Value → List (Scalar × Value)
  | .mapping entries => entries
  | _ => []

theorem Document.Value.exists_mapping {value : Value} (shape : value.kind = .mapping) :
    ∃ entries, value = .mapping entries := by
  rcases value with (_ | _ | _ | _ | _ | _ | _ | _) | _ | _ | entries
  case mapping => exact ⟨entries, rfl⟩
  all_goals cases shape

theorem Document.Value.entries_eq_nil {value : Value} (shape : value.kind ≠ .mapping) : value.entries = [] := by
  cases value with
  | mapping => exact absurd rfl shape
  | scalar | list | set => rfl

theorem Document.Value.entries_of_isBlank {value : Value} (blank : value.isBlank = true) : value.entries = [] := by
  cases value with
  | mapping => exact List.isEmpty_iff.mp blank
  | scalar | list | set => rfl

/-- The whole document and its sections have each key once. -/
structure Document.Value.IsSingle (document : Value) : Prop where
  sections : (document.entries.map Prod.fst).Nodup
  options : ∀ entry ∈ document.entries, (entry.2.entries.map Prod.fst).Nodup

namespace Document.Value

variable {key : Scalar} {v : Value} {entries : List (Scalar × Value)}

theorem keys_put (key : Scalar) (v : Value) (entries : List (Scalar × Value)) :
    (put key v entries).map Prod.fst =
      if entries.any (·.1.sameKey key) then entries.map Prod.fst else entries.map Prod.fst ++ [key] := by
  induction entries with
  | nil => rfl
  | cons entry entries ih =>
    obtain ⟨other, old⟩ := entry
    rw [put, List.any_cons]
    cases other.sameKey key with
    | true => rfl
    | false =>
      simp only [Bool.false_eq_true, if_false, List.map_cons, ih, Bool.false_or]
      split <;> rfl

theorem forall_put {P : Value → Prop} (all : ∀ entry ∈ entries, P entry.2) (new : P v) :
    ∀ entry ∈ put key v entries, P entry.2 := by
  induction entries with
  | nil => simpa [put] using new
  | cons entry entries ih =>
    obtain ⟨first, rest⟩ := List.forall_mem_cons.mp all
    rw [put]
    split
    · exact List.forall_mem_cons.mpr ⟨new, rest⟩
    · exact List.forall_mem_cons.mpr ⟨first, ih rest⟩

theorem IsSingle.put (single : (mapping entries).IsSingle) (inner : (v.entries.map Prod.fst).Nodup) :
    (mapping (Value.put key v entries)).IsSingle := by
  refine ⟨?_, forall_put (P := fun v => (v.entries.map Prod.fst).Nodup) single.options inner⟩
  change ((Value.put key v entries).map Prod.fst).Nodup
  have sections : (entries.map Prod.fst).Nodup := single.sections
  rw [keys_put]
  split
  · exact sections
  · next new =>
    refine sections.append (List.nodup_singleton key) (List.disjoint_singleton.mpr fun old => new ?_)
    obtain ⟨entry, member, same⟩ := List.mem_map.mp old
    exact List.any_eq_true.mpr ⟨entry, member, same ▸ entry.1.sameKey_self⟩

theorem isSingle_ofEntries (inner : ∀ entry ∈ entries, (entry.2.entries.map Prod.fst).Nodup) :
    (ofEntries entries).IsSingle := by
  suffices run : ∀ before, (mapping before).IsSingle →
      (mapping (entries.foldl (fun m entry => Value.put entry.1 entry.2 m) before)).IsSingle from
    run [] ⟨List.nodup_nil, nofun⟩
  induction entries with
  | nil => exact fun before single => single
  | cons entry entries ih =>
    obtain ⟨first, rest⟩ := List.forall_mem_cons.mp inner
    exact fun before single => ih rest _ (single.put first)

end Document.Value

/-- The values that a tree stands for are mappings with each key once, at each depth, or no mappings. -/
theorem Document.Tree.isSingle_value (t : Tree) (fuel depth : Nat) (node : Node) :
    (t.value fuel depth node).IsSingle := by
  induction depth generalizing node with
  | zero =>
    rw [Tree.value]
    dsimp only
    split
    · refine Value.isSingle_ofEntries fun entry member => ?_
      obtain ⟨_, _, rfl⟩ := List.mem_map.mp member
      exact List.nodup_nil
    all_goals exact ⟨List.nodup_nil, fun _ => nofun⟩
  | succ depth ih =>
    rw [Tree.value]
    dsimp only
    split
    · refine Value.isSingle_ofEntries fun entry member => ?_
      obtain ⟨_, _, rfl⟩ := List.mem_map.mp member
      exact (ih _).sections
    all_goals exact ⟨List.nodup_nil, fun _ => nofun⟩

theorem Document.Tree.isSingle_read {t : Tree} {size depth : Nat} {document : Value}
    (read : t.read size depth = .ok document) : document.IsSingle := by
  simp only [Tree.read, bind, Except.bind, pure, Except.pure] at read
  split at read
  · cases read
  split at read
  · cases read
  · exact Except.ok.inj read ▸ t.isSingle_value size depth t.root

theorem Document.read_of_guard {c : Prop} [Decidable c] {d : Defect} {f : PUnit → Except Defect Value}
    {rest : Except Defect Value} {document : Value} (read : (if c then throw d >>= f else rest) = .ok document) :
    rest = .ok document := by
  split at read
  · cases read
  · exact read

theorem Document.isSingle_read {depth : Nat} {bytes : List UInt8} {document : Value}
    (read : Document.read depth bytes = .ok document) : document.IsSingle := by
  have null : Value.null.IsSingle := ⟨List.nodup_nil, fun _ => nofun⟩
  unfold Document.read at read
  replace read := read_of_guard read
  -- what the tree is does not matter, and its computation is not to be unfolded
  generalize Tree.ofText (Source.ofBytes bytes).text = tree at read
  cases cause : (Source.ofBytes bytes).cause with
  | none =>
    simp only [cause] at read
    rcases tree with stop | _ | tree
    · cases read
    · exact Except.ok.inj read ▸ null
    · exact Tree.isSingle_read read
  | some =>
    simp only [cause] at read
    replace read := read_of_guard read
    rcases tree with stop | _ | tree
    · cases read
    · exact Except.ok.inj read ▸ null
    · exact Tree.isSingle_read read

end AccessList
