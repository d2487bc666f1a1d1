/-! Values that come with notes. The notes of a computation are those of its steps, in order. -/
namespace AccessList

structure Noted (ν α : Type) where
  value : α
  notes : List ν := []
  deriving DecidableEq, Repr

namespace Noted

variable {ν μ α β : Type}

instance : Monad (Noted ν) where
  pure a := ⟨a, []⟩
  bind x f := ⟨(f x.value).value, x.notes ++ (f x.value).notes⟩

def note (n : ν) : Noted ν Unit := ⟨(), [n]⟩

def mapNotes (f : ν → μ) (x : Noted ν α) : Noted μ α := ⟨x.value, x.notes.map f⟩

/-- Carries a state along a list. The notes are gathered in an array, so that long lists are fine. -/
def sweep (f : β → α → Noted ν β) (init : β) (xs : List α) : Noted ν β :=
  let (state, notes) := xs.foldl (fun (state, notes) x =>
    let y := f state x
    (y.value, notes ++ y.notes)) (init, (#[] : Array ν))
  ⟨state, notes.toList⟩

@[simp] theorem value_pure (a : α) : (pure a : Noted ν α).value = a := rfl
@[simp] theorem value_bind (x : Noted ν α) (f : α → Noted ν β) :
    (x >>= f).value = (f x.value).value := rfl
@[simp] theorem value_mapNotes (f : ν → μ) (x : Noted ν α) : (x.mapNotes f).value = x.value := rfl
@[simp] theorem pure_bind (a : α) (f : α → Noted ν β) : (pure a >>= f) = f a := rfl
@[simp] theorem mapNotes_pure (f : ν → μ) (a : α) : (pure a : Noted ν α).mapNotes f = pure a := rfl

end Noted
end AccessList
