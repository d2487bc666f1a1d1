/-! First-in first-out queues, as two lists of which the second is kept in reverse. The meaning of a
queue is `toList`, its elements with the oldest first. -/
namespace AccessList

structure Queue (α : Type) where
  front : List α := []
  back : List α := []
  deriving Repr

namespace Queue

variable {α : Type}

def toList (q : Queue α) : List α := q.front ++ q.back.reverse

def push (q : Queue α) (a : α) : Queue α := { q with back := a :: q.back }

def append (q : Queue α) (as : List α) : Queue α := as.foldl push q

def isEmpty (q : Queue α) : Bool := q.front.isEmpty && q.back.isEmpty

def pop? (q : Queue α) : Option (α × Queue α) :=
  match q.front with
  | a :: front => some (a, { q with front })
  | [] => match q.back.reverse with
    | a :: front => some (a, { front })
    | [] => none

@[simp] theorem toList_push (q : Queue α) (a : α) : (q.push a).toList = q.toList ++ [a] := by
  simp [push, toList]

@[simp] theorem toList_append (q : Queue α) (as : List α) :
    (q.append as).toList = q.toList ++ as := by
  induction as generalizing q with
  | nil => simp [append]
  | cons a as ih => simpa [append] using ih (q.push a)

theorem isEmpty_iff (q : Queue α) : q.isEmpty = true ↔ q.toList = [] := by
  simp [isEmpty, toList]

theorem toList_of_pop? {q rest : Queue α} {a : α} (h : q.pop? = some (a, rest)) :
    q.toList = a :: rest.toList := by
  unfold pop? at h
  split at h
  · next x front hf => cases h; simp [toList, hf]
  · next hf =>
    split at h
    · next x front hb => cases h; simp [toList, hf, hb]
    · cases h

theorem pop?_eq_none {q : Queue α} (h : q.pop? = none) : q.toList = [] := by
  unfold pop? at h
  split at h
  · cases h
  · next hf =>
    split at h
    · cases h
    · next hb => simp [toList, hf, hb]

end Queue
end AccessList
