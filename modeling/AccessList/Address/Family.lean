/-! The two address families and their addresses, which are words of the family's width. A prefix
length splits an address into the network part that its block shares and the host part. -/
namespace AccessList

inductive Family where
  | v4
  | v6
  deriving DecidableEq, Repr

@[reducible] def Family.width : Family → Nat
  | .v4 => 32
  | .v6 => 128

abbrev Address (f : Family) := BitVec f.width

namespace Address

variable {w : Nat}

/-- The word whose first `length` bits are set. -/
def mask (w length : Nat) : BitVec w := BitVec.allOnes w <<< (w - length)

def first (mask a : BitVec w) : BitVec w := a &&& mask

def last (mask a : BitVec w) : BitVec w := a ||| ~~~mask

/-- The network part of an address, which is the first address of its block. -/
def network (length : Nat) (a : BitVec w) : BitVec w := first (mask w length) a

/-- A mask need not be contiguous; its length is the number of its set bits. -/
def maskLength (m : BitVec w) : Nat := (List.range w).countP m.getLsbD

end Address
end AccessList
