/-! Characters by their code points. One half of a character is none, and is held as a character for
private use until it is shown after the other half. -/
namespace AccessList.Text

def replacement : Char := '\ufffd'

def halfShift : Nat := 0xfd000

def half? (c : Char) : Option Nat :=
  if halfShift + 0xd800 ≤ c.toNat && c.toNat ≤ halfShift + 0xdfff then some (c.toNat - halfShift) else none

def ofCodePoint (n : Nat) : Char := Char.ofNat (if n.isValidChar then n else halfShift + n)

def join? (high low : Char) : Option Char :=
  match half? high, half? low with
  | some a, some b =>
    if a < 0xdc00 && 0xdc00 ≤ b then some (Char.ofNat (0x10000 + 0x400 * (a - 0xd800) + (b - 0xdc00)))
    else none
  | _, _ => none

def joinHalves : List Char → List Char
  | a :: b :: rest =>
    match join? a b with
    | some c => c :: joinHalves rest
    | none => a :: joinHalves (b :: rest)
  | s => s

end AccessList.Text
