import AccessList.Address.Family
import AccessList.Text.Cut

/-! Dotted quads, the text form of the addresses of version 4. Every address has one dotted quad, and
no other text is read as an address. -/
namespace AccessList.Address.Dotted

open Text

def isAsciiDigit (c : Char) : Bool := '0' ≤ c && c ≤ '9'

/-- An octet has no leading zero, and no digits but those of ASCII. -/
def octet? (s : String) : Option Nat :=
  let cs := s.toList
  let n := cs.foldl (fun n c => 10 * n + (c.toNat - 0x30)) 0
  if cs.isEmpty || !cs.all isAsciiDigit || 3 < cs.length then none
  else if cs.head? = some '0' && cs.length ≠ 1 then none
  else if 255 < n then none
  else some n

def ofOctets (os : List Nat) : Address .v4 := os.foldl (fun a o => a <<< 8 ||| BitVec.ofNat 32 o) 0

def octets (a : Address .v4) : List Nat := [24, 16, 8, 0].map fun s => (a >>> s).toNat % 256

def read? (s : String) : Option (Address .v4) :=
  match (fields '.' s).mapM octet? with
  | some [a, b, c, d] => some (ofOctets [a, b, c, d])
  | _ => none

def write (a : Address .v4) : String := String.intercalate "." ((octets a).map toString)

end AccessList.Address.Dotted
