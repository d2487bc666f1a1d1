import AccessList.Text.Blank
import AccessList.Text.Digit
import AccessList.Text.Hex
import AccessList.Text.Quoted

/-! Whole numbers as a person writes them: white space around, a sign, digits of any script, and
single underscores between digits. Reading and writing are inverse on numbers of bearable length. -/
namespace AccessList.Numeral

open Text

/-- Longer numerals are refused, whatever they say, and longer numbers cannot be written. -/
def maxDigits : Nat := 4300

inductive Unreadable where
  | malformed (text : String) (base : Nat := 10)
  | tooLong (digits : Nat)
  deriving DecidableEq, Repr

def quotedLength : Nat := 200

def Unreadable.message : Unreadable → String
  | .malformed text base =>
    s!"invalid literal for int() with base {base}: " ++
      String.ofList ((quoteChars text.toList).take quotedLength)
  | .tooLong digits =>
    s!"Exceeds the limit ({maxDigits} digits) for integer string conversion: value has {digits} " ++
      "digits; use sys.set_int_max_str_digits() to increase the limit"

def decimalLength (n : Nat) : Nat := (toString n).length

def isWritable (n : Int) : Bool := decimalLength n.natAbs ≤ maxDigits

def unwritableText : String :=
  s!"Exceeds the limit ({maxDigits} digits) for integer string conversion; " ++
    "use sys.set_int_max_str_digits() to increase the limit"

/-- A numeral may stand between blanks, but not between the separator controls. -/
def isMargin (c : Char) : Bool := isBlank c && !(0x1c ≤ c.toNat && c.toNat ≤ 0x1f)

def trimMargins (s : List Char) : List Char :=
  ((s.dropWhile isMargin).reverse.dropWhile isMargin).reverse

/-- Beyond nine the digits of a base are letters. -/
def digitIn? (base : Nat) (c : Char) : Option Nat := ((digitValue? c).or (hexValue? c)).filter (· < base)

/-- The digits at the head of a text and what follows them. Where a digit is `needed`, at the start
and after an underscore, there is no answer without one. -/
def scanDigits (base : Nat) (needed : Bool) : List Char → Option (List Nat × List Char)
  | [] => if needed then none else some ([], [])
  | c :: s =>
    match digitIn? base c with
    | some d => (scanDigits base false s).map fun (ds, rest) => (d :: ds, rest)
    | none =>
      if needed then none else if c = '_' then scanDigits base true s else some ([], c :: s)

def ofDigits (base : Nat) (ds : List Nat) : Nat := ds.foldl (fun n d => base * n + d) 0

def splitSign : List Char → Bool × List Char
  | '-' :: s => (true, s)
  | '+' :: s => (false, s)
  | s => (false, s)

/-- The letter that may mark a numeral of a base other than ten, after a zero. -/
def baseMark? (base : Nat) : Option Char := [(2, 'b'), (8, 'o'), (16, 'x')].lookup base

def dropMark (base : Nat) : List Char → List Char
  | '0' :: c :: s =>
    if baseMark? base = some c.toLower then (if s.head? = some '_' then s.drop 1 else s)
    else '0' :: c :: s
  | s => s

/-- Only numerals of base ten can be too long. -/
def readIn (base : Nat) (text : String) : Except Unreadable Int :=
  let (negative, s) := splitSign (trimMargins text.toList)
  match scanDigits base true (dropMark base s) with
  | none => .error (.malformed text base)
  | some (ds, rest) =>
    if base = 10 && maxDigits < ds.length then .error (.tooLong ds.length)
    else if !rest.isEmpty then .error (.malformed text base)
    else .ok (if negative then -(ofDigits base ds : Int) else ofDigits base ds)

def read (text : String) : Except Unreadable Int := readIn 10 text

def isInteger (token : String) : Bool :=
  let (_, ds) := splitSign token.toList
  !ds.isEmpty && ds.all isDecimal

example : (read " -1_0").toOption = some (-10) ∧ (read "1__0").toOption = none := by decide +kernel

end AccessList.Numeral
