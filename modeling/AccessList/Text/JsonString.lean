import AccessList.Text.Hex

/-! Strings of the JSON format, written in ASCII only. A character outside it is written as one escape,
or as two that name its surrogate pair. -/
namespace AccessList.Text

def jsonEscape (c : Char) : List Char :=
  let unit (n : Nat) := '\\' :: 'u' :: hexDigits 4 n
  let n := c.toNat
  if c = '"' || c = '\\' then ['\\', c]
  else if c = '\n' then ['\\', 'n']
  else if c = '\r' then ['\\', 'r']
  else if c = '\t' then ['\\', 't']
  else if n = 0x08 then ['\\', 'b']
  else if n = 0x0c then ['\\', 'f']
  else if 0x20 ≤ n && n < 0x7f then [c]
  else if n < 0x10000 then unit n
  else unit (0xd800 + (n - 0x10000) / 0x400) ++ unit (0xdc00 + n % 0x400)

def jsonString (s : String) : String :=
  String.ofList ('"' :: s.toList.flatMap jsonEscape ++ ['"'])

end AccessList.Text
