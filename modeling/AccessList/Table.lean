/-! Tables keyed by alias. A table lists its entries in the order in which their aliases were first
defined; a later definition replaces the value and keeps the place. -/
namespace AccessList

structure Table (α : Type) where
  entries : List (String × α) := []
  deriving DecidableEq, Repr

namespace Table

variable {α : Type}

def get? (t : Table α) (key : String) : Option α := t.entries.lookup key

def contains (t : Table α) (key : String) : Bool := (t.get? key).isSome

def size (t : Table α) : Nat := t.entries.length

def put (key : String) (value : α) : List (String × α) → List (String × α)
  | [] => [(key, value)]
  | (a, v) :: rest => if a = key then (a, value) :: rest else (a, v) :: put key value rest

def insert (t : Table α) (key : String) (value : α) : Table α := ⟨put key value t.entries⟩

def ofList (entries : List (String × α)) : Table α :=
  entries.foldl (fun t (key, value) => t.insert key value) {}

theorem lookup_put (a key : String) (v : α) (l : List (String × α)) :
    (put key v l).lookup a = if a = key then some v else l.lookup a := by
  induction l with
  | nil => grind [put]
  | cons e l ih => grind [put]

theorem get?_insert (t : Table α) (a key : String) (v : α) :
    (t.insert key v).get? a = if a = key then some v else t.get? a :=
  lookup_put a key v t.entries

end Table
end AccessList
