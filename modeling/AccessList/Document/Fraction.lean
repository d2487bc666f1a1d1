import AccessList.Numeral

/-! Fractions of a document: binary numbers of 53 digits, as near as can be to the decimal number that
is written. A fraction is shown by the fewest decimal digits that lead back to it. -/
namespace AccessList.Document

/-- A finite fraction is `mantissa * 2 ^ exponent`. The mantissa has all its digits unless the exponent
is the least one. Undefined ones are the same only if their marks are. -/
inductive Fraction where
  | finite (negative : Bool) (mantissa : Nat) (exponent : Int)
  | infinite (negative : Bool)
  | undefined (mark : Nat)
  deriving DecidableEq, Repr

namespace Fraction

def leastExponent : Int := -1074
def mostExponent : Int := 971
def fullMantissa : Nat := 1 <<< 53

def zero (negative : Bool) : Fraction := finite negative 0 leastExponent

/-- The nearest whole number to a quotient, the even one of two that are as near. -/
def roundQuotient (num den : Nat) : Nat :=
  let q := num / den
  let r := num % den
  if den < 2 * r || (2 * r = den && q % 2 = 1) then q + 1 else q

def ofQuotient (negative : Bool) (num den : Nat) : Fraction :=
  let ratioAt (e : Int) : Nat × Nat := (num <<< (-e).toNat, den <<< e.toNat)
  let guess : Int := (num.log2 : Int) - den.log2 - 53
  let (a, b) := ratioAt guess
  let exponent := max leastExponent (if a / b < fullMantissa then guess else guess + 1)
  let (a, b) := ratioAt exponent
  let mantissa := roundQuotient a b
  let (mantissa, exponent) :=
    if mantissa = fullMantissa then (fullMantissa / 2, exponent + 1) else (mantissa, exponent)
  if mostExponent < exponent then infinite negative else finite negative mantissa exponent

def ofScaled (negative : Bool) (mantissa : Nat) (exponent : Int) : Fraction :=
  if mantissa = 0 then zero negative
  else ofQuotient negative (mantissa <<< exponent.toNat) (1 <<< (-exponent).toNat)

def ofNat (n : Nat) : Fraction := ofScaled false n 0

def negate : Fraction → Fraction
  | finite negative mantissa exponent => finite (!negative) mantissa exponent
  | infinite negative => infinite (!negative)
  | undefined mark => undefined mark

def marked (mark : Nat) : Fraction → Fraction
  | undefined _ => undefined mark
  | f => f

def signed (negative : Bool) (mantissa : Nat) : Int := if negative then -(mantissa : Int) else mantissa

/-- The nearest fraction to a sum. A sum of nothing is positive unless both parts are negative. -/
def add : Fraction → Fraction → Fraction
  | finite a m e, finite b n f =>
    let least := min e f
    let sum := signed a (m <<< (e - least).toNat) + signed b (n <<< (f - least).toNat)
    if sum = 0 then zero (a && b) else ofScaled (sum < 0) sum.natAbs least
  | infinite a, infinite b => if a = b then infinite a else undefined 0
  | infinite a, finite .. | finite .., infinite a => infinite a
  | undefined _, _ | _, undefined _ => undefined 0

def mul : Fraction → Fraction → Fraction
  | finite a m e, finite b n f => ofScaled (a != b) (m * n) (e + f)
  | infinite a, infinite b => infinite (a != b)
  | infinite a, finite b m _ | finite a m _, infinite b =>
    if m = 0 then undefined 0 else infinite (a != b)
  | undefined _, _ | _, undefined _ => undefined 0

def floor : Fraction → Nat
  | finite _ mantissa exponent => mantissa <<< exponent.toNat >>> (-exponent).toNat
  | _ => 0

/-- Ten to a power, and one for a negative power. -/
def ten (power : Int) : Nat := Nat.pow 10 power.toNat

/-- The nearest fraction to `digits * 10 ^ scale`. Numbers beyond all bounds are not worked out. -/
def ofDecimal (negative : Bool) (digits : Nat) (scale : Int) : Fraction :=
  let size := Numeral.decimalLength digits + scale
  if digits = 0 || size < -400 then zero negative
  else if 400 < size then infinite negative
  else ofQuotient negative (digits * ten scale) (ten (-scale))

def whole? : Fraction → Option Int
  | finite negative mantissa exponent =>
    let n? := if 0 ≤ exponent then some (mantissa <<< exponent.toNat)
      else if mantissa % (1 <<< (-exponent).toNat) = 0 then some (mantissa >>> (-exponent).toNat)
      else none
    n?.map fun n => if negative then -(n : Int) else n
  | _ => none

def scanExponent : List Char → Option Int
  | [] => some 0
  | e :: s =>
    let (negative, s) := Numeral.splitSign s
    let digits := s.map Text.digitValue?
    if (e = 'e' || e = 'E') && !digits.isEmpty && digits.all Option.isSome then
      some (signed negative (Numeral.ofDigits 10 (digits.filterMap id)))
    else none

def words : List (String × Fraction) :=
  [("inf", infinite false), ("infinity", infinite false), ("nan", undefined 0)]

/-- A number as a person writes it: blanks around, a sign, digits of any script with a point among
them or none, and an exponent. -/
def read? (text : String) : Option Fraction :=
  let isDigit := Text.isDecimal
  let (negative, s) := Numeral.splitSign (Numeral.trimMargins text.toList)
  let unsigned? := match words.lookup (String.ofList (s.map Char.toLower)) with
    | some word => some word
    | none =>
      let rest := s.dropWhile isDigit
      let (part, rest) :=
        if rest.head? = some '.' then ((rest.drop 1).takeWhile isDigit, (rest.drop 1).dropWhile isDigit)
        else ([], rest)
      let digits := (s.takeWhile isDigit ++ part).filterMap Text.digitValue?
      if digits.isEmpty then none
      else (scanExponent rest).map fun exponent =>
        ofDecimal false (Numeral.ofDigits 10 digits) (exponent - part.length)
  unsigned?.map fun f => if negative then f.negate else f

/-- Decimal digits without zeros at their end, and the place of the point from their start. -/
structure Decimal where
  digits : List Char
  point : Int

/-- Ten to this power is more than enough to lift every positive fraction to one or above. -/
def places : Nat := 400

/-- The decimal numbers that lead back to a fraction lie between two bounds, in quarters of its last
digit, and the bounds belong to them if the mantissa is even. -/
def bounds (mantissa : Nat) (exponent : Int) : Nat × Nat :=
  let isLeast := mantissa = fullMantissa / 2 && leastExponent < exponent
  (4 * mantissa - (if isLeast then 1 else 2), 4 * mantissa + 2)

/-- The nearest decimal number with its last digit at `10 ^ unit` that leads back to the fraction. -/
def decimalAt? (mantissa : Nat) (exponent unit : Int) : Option Nat :=
  let quarters := exponent - 2
  let num := ten (-unit) <<< quarters.toNat
  let den := ten unit <<< (-quarters).toNat
  let (low, high) := bounds mantissa exponent
  let below := 4 * mantissa * num / den
  let nearest := roundQuotient (4 * mantissa * num) den
  let other := if nearest = below then below + 1 else below
  [nearest, other].find? fun n =>
    if mantissa % 2 = 0 then low * num ≤ n * den && n * den ≤ high * num
    else low * num < n * den && n * den < high * num

/-- The fewest digits, and of these the nearest. Seventeen are always enough. -/
def shortest (mantissa : Nat) (exponent : Int) : Decimal :=
  let scaled := (mantissa * ten places) <<< exponent.toNat >>> (-exponent).toNat
  let length : Int := (Numeral.decimalLength scaled : Int) - places
  let attempt (count : Nat) : Option Decimal :=
    (decimalAt? mantissa exponent (length - count)).map fun n =>
      let digits := (toString n).toList
      let point := (digits.length : Int) + length - count
      ⟨(digits.reverse.dropWhile (· = '0')).reverse, point⟩
  ((List.range 17).findSome? fun count => attempt (count + 1)).getD ⟨[], 0⟩

def zeros (n : Int) : List Char := List.replicate n.toNat '0'

/-- Numbers of moderate size have their point where it belongs, and others an exponent of two digits or
more. -/
def Decimal.text (d : Decimal) : List Char :=
  if d.point ≤ -4 || 16 < d.point then
    let exponent := (toString (d.point - 1).natAbs).toList
    let sign := if d.point < 1 then '-' else '+'
    let more := d.digits.drop 1
    d.digits.take 1 ++ (if more.isEmpty then [] else '.' :: more) ++ 'e' :: sign ::
      (zeros (2 - exponent.length) ++ exponent)
  else if d.point ≤ 0 then '0' :: '.' :: (zeros (-d.point) ++ d.digits)
  else
    let whole := d.digits.take d.point.toNat ++ zeros (d.point - d.digits.length)
    let part := d.digits.drop d.point.toNat
    whole ++ '.' :: (if part.isEmpty then ['0'] else part)

def text : Fraction → String
  | undefined _ => "nan"
  | infinite negative => if negative then "-inf" else "inf"
  | finite negative mantissa exponent =>
    let unsigned := if mantissa = 0 then "0.0" else String.ofList (shortest mantissa exponent).text
    if negative then "-" ++ unsigned else unsigned

example : read? " -12.50e-1" = some (finite true (5 <<< 50) (-52)) ∧ read? "1e" = none := by
  decide +kernel

end Fraction
end AccessList.Document
