import AccessList.Table
import Mathlib.Data.List.Induction
import Mathlib.Data.List.Nodup

/-! Tables brought up to date by others. To insert entries one by one is the same as to insert the table that they
make: a later entry of an alias replaces the value and not the place, in either of the two. -/
namespace AccessList.Table

variable {α : Type} {t u : Table α} {key a : String} {v w : α} {l entries more : List (String × α)}

def keys (t : Table α) : List String := t.entries.map Prod.fst

def insertAll (t : Table α) (entries : List (String × α)) : Table α :=
  entries.foldl (fun t e => t.insert e.1 e.2) t

/-- The table with all entries of another one, in their order. -/
def update (t u : Table α) : Table α := t.insertAll u.entries

theorem ofList_eq (entries : List (String × α)) : ofList entries = insertAll {} entries := rfl

theorem insertAll_append : t.insertAll (entries ++ more) = (t.insertAll entries).insertAll more := List.foldl_append

theorem put_put_same : put key v (put key w l) = put key v l := by
  induction l with
  | nil => simp [put]
  | cons e l ih => by_cases same : e.1 = key <;> simp [put, same, ih]

theorem put_put_other (other : a ≠ key) (inside : key ∈ l.map Prod.fst) :
    put key v (put a w l) = put a w (put key v l) := by
  induction l with
  | nil => cases inside
  | cons e l ih =>
    obtain ⟨b, x⟩ := e
    by_cases here : b = key
    · subst here
      simp [put, other.symm]
    · have later : key ∈ l.map Prod.fst := by simpa [Ne.symm here] using inside
      by_cases there : b = a
      · simp [put, there, other]
      · simp [put, here, there, ih later]

theorem keys_put (key : String) (v : α) (l : List (String × α)) :
    (put key v l).map Prod.fst = if key ∈ l.map Prod.fst then l.map Prod.fst else l.map Prod.fst ++ [key] := by
  induction l with
  | nil => rfl
  | cons e l ih => grind [put]

theorem mem_keys_insert (inside : key ∈ t.keys) : key ∈ (t.insert a w).keys := by
  change key ∈ (put a w t.entries).map Prod.fst
  rw [keys_put]
  split
  · exact inside
  · exact List.mem_append_left _ inside

theorem nodup_keys_insert (single : t.keys.Nodup) : (t.insert a w).keys.Nodup := by
  change ((put a w t.entries).map Prod.fst).Nodup
  rw [keys_put]
  split
  · exact single
  · next new => exact single.append (List.nodup_singleton a) (List.disjoint_singleton.mpr new)

theorem nodup_keys_ofList (entries : List (String × α)) : (ofList entries).keys.Nodup := by
  induction entries using List.reverseRecOn with
  | nil => exact List.nodup_nil
  | append_singleton entries e ih =>
    rw [ofList_eq, insertAll_append, ← ofList_eq]
    exact nodup_keys_insert ih

theorem insert_insertAll (inside : key ∈ t.keys) (outside : key ∉ entries.map Prod.fst) :
    (t.insertAll entries).insert key v = (t.insert key v).insertAll entries := by
  induction entries generalizing t with
  | nil => rfl
  | cons e entries ih =>
    obtain ⟨first, later⟩ := not_or.mp (mt List.mem_cons.mpr outside)
    change ((t.insert e.1 e.2).insertAll entries).insert key v = ((t.insert key v).insert e.1 e.2).insertAll entries
    rw [ih (mem_keys_insert inside) later]
    exact congrArg (fun l => insertAll ⟨l⟩ entries) (put_put_other (Ne.symm first) inside)

theorem mem_keys_self : key ∈ (t.insert key v).keys := by
  change key ∈ (put key v t.entries).map Prod.fst
  rw [keys_put]
  split
  · assumption
  · simp

theorem update_insert (single : u.keys.Nodup) : t.update (u.insert key v) = (t.update u).insert key v := by
  obtain ⟨entries⟩ := u
  change t.insertAll (put key v entries) = (t.insertAll entries).insert key v
  induction entries generalizing t with
  | nil => rfl
  | cons e entries ih =>
    obtain ⟨a, w⟩ := e
    obtain ⟨apart, rest⟩ := List.nodup_cons.mp single
    rw [put]
    split
    · next same =>
      subst same
      change (t.insert a v).insertAll entries = ((t.insert a w).insertAll entries).insert a v
      rw [insert_insertAll mem_keys_self apart]
      exact congrArg (fun l => insertAll ⟨l⟩ entries) put_put_same.symm
    · exact ih rest

theorem insertAll_eq_update (t : Table α) (entries : List (String × α)) :
    t.insertAll entries = t.update (ofList entries) := by
  induction entries using List.reverseRecOn with
  | nil => rfl
  | append_singleton entries e ih =>
    rw [ofList_eq, insertAll_append, insertAll_append, ih, ← ofList_eq]
    exact (update_insert (nodup_keys_ofList entries)).symm

/-- The table of two lists of entries is that of the first, brought up to date by that of the second. -/
theorem ofList_append (entries more : List (String × α)) :
    ofList (entries ++ more) = (ofList entries).update (ofList more) := by
  rw [ofList_eq, insertAll_append, ← ofList_eq, insertAll_eq_update]

end AccessList.Table
