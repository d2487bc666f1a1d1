import AccessList.Address.Hextets
import AccessList.Numeral

/-! Addresses with a prefix length, `a/p`, and containment of one such text in a segment or in a
range `a-b`. An address with host bits stands for that host alone, whatever its prefix length. -/
namespace AccessList

open Text

namespace Family

def read? : (f : Family) → String → Option (Address f)
  | .v4 => Address.Dotted.read?
  | .v6 => Address.Hextets.read?

def write : (f : Family) → Address f → String
  | .v4 => Address.Dotted.write
  | .v6 => Address.Hextets.full

end Family

namespace Address

/-- A prefix length is read from digits only. A digit sign passes as a digit and then has no value. -/
def prefixLength? (limit : Nat) (s : String) : Except Numeral.Unreadable (Option Nat) :=
  if isDigits s then do
    let n ← Numeral.read s
    return if limit < n then none else some n.toNat
  else return none

structure Cidr (f : Family) where
  address : Address f
  length : Nat
  deriving DecidableEq

namespace Cidr

variable {f : Family}

/-- Nothing where the text has no slash, no address before it or no prefix length after it. -/
def read? (f : Family) (s : String) : Except Numeral.Unreadable (Option (Cidr f)) :=
  match cut '/' s with
  | none => return none
  | some (host, length) => do
    let length ← prefixLength? f.width length
    return do return ⟨← f.read? host, ← length⟩

def span (c : Cidr f) : Nat := if network c.length c.address = c.address then c.length else f.width

def isIn (test segment : Cidr f) : Bool :=
  segment.length ≤ test.span &&
    network segment.length test.address = network segment.length segment.address

def firstAddress (c : Cidr f) : Address f := network c.span c.address

def lastAddress (c : Cidr f) : Address f := last (mask f.width c.span) c.address

end Cidr

def readRange? (f : Family) (s : String) : Option (Address f × Address f) :=
  (cut '-' s).bind fun (a, b) => do return (← f.read? a, ← f.read? b)

def isInSegment (f : Family) (test segment : String) : Except Numeral.Unreadable Bool := do
  let test ← Cidr.read? f test
  let segment ← Cidr.read? f segment
  return match test, segment with
    | some test, some segment => test.isIn segment
    | _, _ => false

def isInRange (f : Family) (test range : String) : Except Numeral.Unreadable Bool := do
  let test ← Cidr.read? f test
  return match test, readRange? f range with
    | some test, some (low, high) => low ≤ test.firstAddress && test.lastAddress ≤ high
    | _, _ => false

/-- The order of two addresses, if both texts spell one. -/
def compare? (f : Family) (a b : String) : Option Ordering := do
  return compare (← f.read? a).toNat (← f.read? b).toNat

def netmaskLength? (f : Family) (netmask : String) : Option Nat := (f.read? netmask).map maskLength

def netmask? (f : Family) (length : Int) : Option String :=
  if 0 ≤ length && length ≤ f.width then some (f.write (mask f.width length.toNat)) else none

/-- The address keeps its spelling, and its host bits. -/
def withNetmask? (a netmask : String) : Option String :=
  (netmaskLength? .v4 netmask).map fun length => s!"{a}/{length}"

def firstUnder? (f : Family) (a netmask : String) : Option String := do
  return f.write (first (← f.read? netmask) (← f.read? a))

def lastUnder? (f : Family) (a netmask : String) : Option String := do
  return f.write (last (← f.read? netmask) (← f.read? a))

def full? (a : String) : Option String := (Hextets.read? a).map Hextets.full

def beforeSlash (change : String → Option String) (s : String) : Option String :=
  let (host, length) := (cut '/' s).getD (s, "")
  (change host).map fun a => s!"{a}/{length}"

/-- Four runs of decimal digits between dots, each at least one digit long. -/
def looksDotted (s : String) : Bool :=
  let parts := fields '.' s
  parts.length = 4 && parts.all fun p => !p.isEmpty && p.toList.all isDecimal

/-- A host as a block of one address, as far as the text looks like an address; else it is a name and
stays as it is. -/
def host? (s : String) : Option String :=
  if has ':' s then beforeSlash full? s!"{s}/128"
  else if looksDotted s then some s!"{s}/32"
  else some s

end Address
end AccessList
