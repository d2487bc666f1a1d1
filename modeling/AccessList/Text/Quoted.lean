import AccessList.Text.CodePoint
import AccessList.Text.Hex
import AccessList.Text.Printable

/-! A text in quotes, as messages show it: all in one line, with a mark that the text itself does not
hold where that can be had, and with escapes for what cannot be seen. -/
namespace AccessList.Text

/-- Apostrophes, unless the text holds one and no double quote. -/
def quoteMark (s : List Char) : Char := if s.contains '\'' && !s.contains '"' then '"' else '\''

def escape (mark c : Char) : List Char :=
  if c = mark || c = '\\' then ['\\', c]
  else if c = '\n' then ['\\', 'n']
  else if c = '\r' then ['\\', 'r']
  else if c = '\t' then ['\\', 't']
  else if isPrintable c then [c]
  else if c.toNat < 0x100 then '\\' :: 'x' :: hexDigits 2 c.toNat
  else if c.toNat < 0x10000 then '\\' :: 'u' :: hexDigits 4 c.toNat
  else match half? c with
    | some n => '\\' :: 'u' :: hexDigits 4 n
    | none => '\\' :: 'U' :: hexDigits 8 c.toNat

def quoteChars (s : List Char) : List Char :=
  let mark := quoteMark s
  mark :: s.flatMap (escape mark) ++ [mark]

def quote (s : String) : String := String.ofList (quoteChars s.toList)

end AccessList.Text
