import AccessList.Text.CodePoint
import AccessList.Text.Hex

/-! Texts as bytes. Bytes that are no UTF-8 are read as replacement characters, one for each longest
run that could have begun a character. -/
namespace AccessList.Text

/-- A character some of whose bytes are missing, and the bounds of the next one. -/
structure Incomplete where
  value : Nat
  missing : Nat
  low : Nat := 0x80
  high : Nat := 0xbf
  deriving DecidableEq, Repr

/-- The bounds exclude long forms, surrogates and what lies beyond the last code point. -/
def leadByte? (b : Nat) : Option Incomplete :=
  if 0xc2 ≤ b && b ≤ 0xdf then some ⟨b - 0xc0, 1, 0x80, 0xbf⟩
  else if b = 0xe0 then some ⟨0, 2, 0xa0, 0xbf⟩
  else if b = 0xed then some ⟨0xd, 2, 0x80, 0x9f⟩
  else if 0xe1 ≤ b && b ≤ 0xef then some ⟨b - 0xe0, 2, 0x80, 0xbf⟩
  else if b = 0xf0 then some ⟨0, 3, 0x90, 0xbf⟩
  else if 0xf1 ≤ b && b ≤ 0xf3 then some ⟨b - 0xf0, 3, 0x80, 0xbf⟩
  else if b = 0xf4 then some ⟨4, 3, 0x80, 0x8f⟩
  else none

structure Decoding where
  chars : Array Char := #[]
  begun : Option Incomplete := none

def Decoding.lead (d : Decoding) (b : Nat) : Decoding :=
  if b < 0x80 then ⟨d.chars.push (Char.ofNat b), none⟩
  else match leadByte? b with
    | some i => ⟨d.chars, some i⟩
    | none => ⟨d.chars.push replacement, none⟩

/-- A byte out of bounds ends the character that has begun and is read afresh. -/
def Decoding.read (d : Decoding) (byte : UInt8) : Decoding :=
  let b := byte.toNat
  match d.begun with
  | none => d.lead b
  | some i =>
    if i.low ≤ b && b ≤ i.high then
      let value := 0x40 * i.value + (b - 0x80)
      if i.missing = 1 then ⟨d.chars.push (Char.ofNat value), none⟩
      else ⟨d.chars, some { value, missing := i.missing - 1 }⟩
    else Decoding.lead ⟨d.chars.push replacement, none⟩ b

def decodeUtf8 (bytes : List UInt8) : String :=
  let d := bytes.foldl Decoding.read {}
  String.ofList (d.chars.toList ++ if d.begun.isSome then [replacement] else [])

inductive Flaw where
  | start
  | continuation
  | cutOff
  deriving DecidableEq, Repr

def Flaw.text : Flaw → String
  | start => "invalid start byte"
  | continuation => "invalid continuation byte"
  | cutOff => "unexpected end of data"

/-- The first bytes of a text that are no character: where they are, how many, and the first of them. -/
structure Malformed where
  flaw : Flaw
  position : Nat
  count : Nat
  lead : Nat
  deriving DecidableEq, Repr

def Malformed.message (m : Malformed) : String :=
  let bytes :=
    if m.count ≤ 1 then s!"byte 0x{String.ofList (hexDigits 2 m.lead)} in position {m.position}"
    else s!"bytes in position {m.position}-{m.position + m.count - 1}"
  s!"'utf-8' codec can't decode {bytes}: {m.flaw.text}"

/-- Whether two bytes begin one half of a pair of characters, which is no character of its own. -/
def isHalfStart (lead b : Nat) : Bool := lead = 0xed && 0xa0 ≤ b && b ≤ 0xbf

/-- Looks for malformed bytes after the first `position` ones. `begun` is a character that has begun,
with its first byte and the number of its bytes so far. Where the bytes are all there are, it is
malformed if they end in it. A half of a pair is seen to be malformed with its third byte, unless there
is none. -/
def malformedFrom (isAll : Bool) (position : Nat) (begun : Option (Incomplete × Nat × Nat)) :
    List UInt8 → Option Malformed
  | [] =>
    match begun with
    | some (_, lead, count) => if isAll then some ⟨.cutOff, position - count, count, lead⟩ else none
    | none => none
  | byte :: bytes =>
    let b := byte.toNat
    match begun with
    | some (i, lead, count) =>
      if i.low ≤ b && b ≤ i.high then
        let more : Incomplete := { value := 0, missing := i.missing - 1 }
        malformedFrom isAll (position + 1) (if i.missing = 1 then none else some (more, lead, count + 1)) bytes
      else if !isAll && bytes.isEmpty && isHalfStart lead b then none
      else some ⟨.continuation, position - count, count, lead⟩
    | none =>
      if b < 0x80 then malformedFrom isAll (position + 1) none bytes
      else match leadByte? b with
        | some i => malformedFrom isAll (position + 1) (some (i, b, 1)) bytes
        | none => some ⟨.start, position, 1, b⟩

def findMalformed (isAll : Bool) (bytes : List UInt8) : Option Malformed := malformedFrom isAll 0 none bytes

/-- How many bytes at the end of the beginning of a text belong to a character that is not complete. -/
def begunLength (bytes : List UInt8) : Nat :=
  (findMalformed true bytes).elim 0 fun m => bytes.length - m.position

/-- The text of bytes that are UTF-8 from end to end. -/
def readUtf8 (bytes : List UInt8) : Except Malformed String :=
  match findMalformed true bytes with
  | some m => .error m
  | none => .ok (decodeUtf8 bytes)

end AccessList.Text
