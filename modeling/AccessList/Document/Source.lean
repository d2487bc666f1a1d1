import AccessList.Document.Fraction
import AccessList.Text.Lines
import AccessList.Text.Utf8

/-! The text of a file, as far as it can be read. A file is decoded in chunks and read in portions, and
bytes that are no text spoil the portions that need their chunk. -/
namespace AccessList.Document

/-- The text of the portions that can be read, and why there are no more. -/
structure Source where
  text : List Char
  cause : Option Text.Malformed := none

namespace Source

def portion : Nat := 4096

/-- The number of bytes in a chunk, unless that is too few for what is missing of a portion. -/
def chunk : Nat := 8192

/-- How many characters are read when so many have been looked at: two portions at first, then one at a
time. -/
def loaded (reach : Nat) : Nat := portion * max 2 ((reach + portion - 1) / portion)

/-- Decoding a file: the bytes that are left, those that have begun a character, whether a carriage return
is held back, for it is one line end with a line feed after it, the number of characters so far, and the
bytes for a character in the last chunk. -/
structure Decoder where
  rest : List UInt8
  begun : List UInt8 := []
  held : Bool := false
  count : Nat := 0
  ratio : Fraction := .zero false

namespace Decoder

/-- Large characters ask for larger chunks. -/
def chunkSize (d : Decoder) : Nat :=
  max chunk (d.ratio.mul (.ofNat (portion - d.count % portion))).floor

/-- The number of characters in bytes after those that are held back, and whether the last is held back in
turn. -/
def measure (held : Bool) (s : List Char) : Nat × Bool :=
  let s := if held && !s.isEmpty then '\r' :: s else s
  let holds := s.getLast? = some '\r'
  ((Text.unifyLineEnds (if holds then s.dropLast else s)).length, holds || (held && s.isEmpty))

/-- Decodes chunk after chunk up to the first bytes that are no text, and says what they are and how many
characters come before their chunk. -/
def findFlaw : (fuel : Nat) → Decoder → Option (Text.Malformed × Nat)
  | 0, _ => none
  | fuel + 1, d =>
    let chunk := d.rest.take d.chunkSize
    if chunk.isEmpty then (Text.findMalformed true d.begun).map (·, d.count)
    else
      let bytes := d.begun ++ chunk
      match Text.findMalformed false bytes with
      | some cause => some (cause, d.count)
      | none =>
        let begun := bytes.drop (bytes.length - Text.begunLength bytes)
        let text := Text.decodeUtf8 (bytes.take (bytes.length - begun.length))
        let (count, held) := measure d.held text.toList
        let ratio := if count = 0 then .zero false else .ofQuotient false chunk.length count
        findFlaw fuel { rest := d.rest.drop chunk.length, begun, held, count := d.count + count, ratio }

end Decoder

/-- Nothing is read of a file whose first two portions cannot be. -/
def ofBytes (bytes : List UInt8) : Source :=
  let text := Text.unifyLineEnds (Text.decodeUtf8 bytes).toList
  match Decoder.findFlaw (bytes.length + 1) { rest := bytes } with
  | none => { text }
  | some (cause, count) =>
    let whole := count / portion * portion
    { text := text.take (if whole < loaded 0 then 0 else whole), cause }

end Source
end AccessList.Document
