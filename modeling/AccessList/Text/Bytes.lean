import AccessList.Text.Hex
import AccessList.Text.Quoted

/-! Bytes in ASCII: in quotes, as messages show them, and in base 64. -/
namespace AccessList.Text

def escapeByte (mark : Char) (byte : UInt8) : List Char :=
  let n := byte.toNat
  if n < 0x7f then escape mark (Char.ofNat n) else '\\' :: 'x' :: hexDigits 2 n

def bytesMark : Char := 'b'

def quoteBytes (bytes : List UInt8) : String :=
  let mark := quoteMark (bytes.map fun byte => Char.ofNat byte.toNat)
  String.ofList (bytesMark :: mark :: bytes.flatMap (escapeByte mark) ++ [mark])

def sextets : List Char :=
  "ABCDEFGHIJKLMNOPQRSTUVWXYZabcdefghijklmnopqrstuvwxyz0123456789+/".toList

/-- What has been read of base 64: the bytes, the last one first, the digits of a group of four that are
there, the value of their bits that are in no byte yet, and the padding since the last digit. -/
structure Base64 where
  bytes : List UInt8 := []
  digits : Nat := 0
  bits : Nat := 0
  padding : Nat := 0

def Base64.digit (b : Base64) (value : Nat) : Base64 :=
  match b.digits with
  | 0 => { b with digits := 1, bits := value, padding := 0 }
  | 1 => { bytes := (4 * b.bits + value / 16).toUInt8 :: b.bytes, digits := 2, bits := value % 16 }
  | 2 => { bytes := (16 * b.bits + value / 4).toUInt8 :: b.bytes, digits := 3, bits := value % 4 }
  | _ => { bytes := (64 * b.bits + value).toUInt8 :: b.bytes }

/-- Characters that are no digits are passed over. Padding that fills a group ends the text, and without
it all groups must be full. -/
def base64From (b : Base64) : List Char → Option (List UInt8)
  | [] => if b.digits = 0 then some b.bytes.reverse else none
  | c :: s =>
    if c = '=' then
      let b := if 2 ≤ b.digits then { b with padding := b.padding + 1 } else b
      if 2 ≤ b.digits && 4 ≤ b.digits + b.padding then some b.bytes.reverse else base64From b s
    else match sextets.idxOf? c with
      | some value => base64From (b.digit value) s
      | none => base64From b s

def ofBase64? (s : String) : Option (List UInt8) := base64From {} s.toList

end AccessList.Text
