import AccessList.Document.Moment
import AccessList.Numeral
import AccessList.Text.Cut

/-! Tags say what a node stands for. A node may be given one, and a plain scalar, which is written
without quotes, has one by its spelling: the words for null and the booleans, integers of base ten,
two, eight, sixteen and sixty, fractions, days and moments, and else a text. -/
namespace AccessList.Document

open Text

inductive Tag where
  | null
  | boolean
  | integer
  | fraction
  | moment
  | bytes
  | text
  | list
  | mapping
  | set
  | pairs
  | merge
  | standIn
  | unknown
  deriving DecidableEq, Repr

namespace Tag

def scheme : String := "tag:yaml.org,2002:"

def names : List (String × Tag) := [
  ("null", null), ("bool", boolean), ("int", integer), ("float", fraction), ("timestamp", moment),
  ("binary", bytes), ("str", text), ("seq", list), ("map", mapping), ("set", set), ("omap", pairs),
  ("pairs", pairs), ("merge", merge), ("value", standIn)]

def ofName (name : String) : Tag :=
  (names.find? fun (known, _) => scheme ++ known = name).elim unknown (·.2)

def spellings (word : String) : List String := [word, word.capitalize, word.toUpper]

def isOneOf (words : List String) (s : String) : Bool := (words.flatMap spellings).contains s

/-- A digit of a base, not counting underscores, which may stand anywhere after the first digit. -/
def isDigitOf (base : Nat) (c : Char) : Bool :=
  c = '_' || (hexValue? c).any (· < base)

def isDecimalRun : List Char → Bool
  | [] => false
  | c :: s => c.isDigit && s.all (isDigitOf 10)

def isSixtieth : List Char → Bool
  | [a] => a.isDigit
  | [a, b] => '0' ≤ a && a ≤ '5' && b.isDigit
  | _ => false

def isNatural : List Char → Bool
  | '0' :: 'b' :: s => !s.isEmpty && s.all (isDigitOf 2)
  | '0' :: 'x' :: s => !s.isEmpty && s.all (isDigitOf 16)
  | '0' :: s => s.all (isDigitOf 8)
  | s =>
    match s.splitOn ':' with
    | first :: more => isDecimalRun first && more.all isSixtieth
    | [] => false

def isInteger (s : List Char) : Bool := isNatural (Numeral.splitSign s).2

/-- An exponent has a sign and digits. -/
def isExponent : List Char → Bool
  | [] => true
  | e :: sign :: s => (e = 'e' || e = 'E') && (sign = '+' || sign = '-') && !s.isEmpty && s.all Char.isDigit
  | _ => false

def isTail (exponent : Bool) (s : List Char) : Bool :=
  let rest := s.dropWhile (isDigitOf 10)
  if exponent then isExponent rest else rest.isEmpty

/-- A fraction has a point. One that begins with it has no sign. -/
def isFraction (s : List Char) : Bool :=
  let (_, unsigned) := Numeral.splitSign s
  [".inf", ".Inf", ".INF"].contains (String.ofList unsigned) ||
    [".nan", ".NaN", ".NAN"].contains (String.ofList s) ||
    match cutChars '.' unsigned with
    | none => false
    | some ([], tail) =>
      unsigned.length = s.length && tail.head?.any Char.isDigit && isTail true tail
    | some (whole, tail) =>
      match whole.splitOn ':' with
      | [first] => isDecimalRun first && isTail true tail
      | first :: more => isDecimalRun first && more.all isSixtieth && isTail false tail
      | [] => false

def withoutLineEnd (s : String) : String := if s.endsWith "\n" then (s.dropEnd 1).toString else s

def ofSpelling (s : String) : Tag :=
  if s = "~" || isOneOf ["null"] s then null
  else if isOneOf ["yes", "true", "on", "no", "false", "off"] s then boolean
  else if isFraction s.toList then fraction
  else if isInteger s.toList then integer
  else if s = "<<" then merge
  else if Stamp.isStamp s.toList then moment
  else if s = "=" then standIn
  else if ["!", "&", "*"].contains s then unknown
  else text

/-- Nothing is null, and a line feed at the end of a spelling does not count. -/
def ofPlain (s : String) : Tag := if s.isEmpty then null else ofSpelling (withoutLineEnd s)

example : ofPlain "0x1f" = integer ∧ ofPlain "-1:30" = integer ∧ ofPlain "09" = text := by decide +kernel

end Tag
end AccessList.Document
