import AccessList.Document.Defect
import AccessList.Document.Tag
import AccessList.Document.Value
import AccessList.Text.LowerCase

/-! The scalar that a text stands for, given its tag. -/
namespace AccessList.Document

namespace Literal

open Text

/-- The sign of a number, and its text without the sign and without underscores. -/
def unsigned (text : String) : Except Defect (Bool × List Char) :=
  match text.toList.filter (· ≠ '_') with
  | [] => .error .noInteger
  | s => .ok (Numeral.splitSign s)

def integerIn (base : Nat) (s : List Char) : Except Defect Int :=
  (Numeral.readIn base (String.ofList s)).mapError Defect.integer

/-- A number that begins with zero is of base eight unless a letter says otherwise. -/
def integer (text : String) : Except Defect Int := do
  let (negative, s) ← unsigned text
  let n ← match s with
    | [] => throw .noInteger
    | ['0'] => pure 0
    | '0' :: 'b' :: s => integerIn 2 s
    | '0' :: 'x' :: s => integerIn 16 s
    | '0' :: _ => integerIn 8 s
    | _ => do
      let parts ← (s.splitOn ':').mapM (integerIn 10)
      pure (parts.foldl (fun n part => 60 * n + part) 0)
  return if negative then -n else n

def simpleFraction (s : List Char) : Except Defect Fraction :=
  match Fraction.read? (String.ofList s) with
  | some f => .ok f
  | none => .error (.fraction (String.ofList s))

/-- Adds up fractions of which each weighs sixty times the one before. Every product and every sum is
rounded, and a weight must itself be a fraction. -/
def weigh (weight : Nat) (sum : Fraction) : List Fraction → Except Defect Fraction
  | [] => .ok sum
  | part :: more =>
    match Fraction.ofNat weight with
    | .infinite _ => .error .tooGreat
    | w => weigh (60 * weight) (sum.add (part.mul w)) more

/-- Only the word for it makes the same undefined fraction everywhere. -/
def fraction (place : Nat) (text : String) : Except Defect Fraction := do
  let (negative, s) ← unsigned text
  let s := lowerFrom [] s
  let f ←
    if s = ".inf".toList then pure (.infinite false)
    else if s = ".nan".toList then pure (.undefined 0)
    else if s.contains ':' then do
      let parts ← (s.splitOn ':').mapM simpleFraction
      pure ((← weigh 1 (.zero false) parts.reverse).marked (place + 1))
    else pure ((← simpleFraction s).marked (place + 1))
  return if negative then f.negate else f

def boolean (text : String) : Except Defect Bool :=
  let word := lower text
  if ["yes", "true", "on"].contains word then .ok true
  else if ["no", "false", "off"].contains word then .ok false
  else .error (.boolean word)

def moment (text : String) : Except Defect Scalar :=
  match Stamp.read? (Tag.withoutLineEnd text).toList with
  | some (.wholeDay d) => (d.check.mapError Defect.moment).map fun _ => .day d
  | some (.moment m) => (m.check.mapError Defect.moment).map fun _ => .moment m
  | none => .error .noMoment

def bytes (text : String) : Except Defect Scalar :=
  match if text.toList.all (·.toNat < 0x80) then ofBase64? text else none with
  | some bytes => .ok (.bytes bytes)
  | none => .error .malformed

end Literal

/-- The scalar of a text at some place in a document. Tags of collections, and tags without a meaning, make it
malformed. -/
def Tag.scalar (tag : Tag) (place : Nat) (text : String) : Except Defect Scalar :=
  match tag with
  | null => .ok .null
  | boolean => (Literal.boolean text).map Scalar.boolean
  | integer => (Literal.integer text).map Scalar.integer
  | fraction => (Literal.fraction place text).map Scalar.fraction
  | moment => Literal.moment text
  | bytes => Literal.bytes text
  | Tag.text => .ok (.text text)
  | _ => .error .malformed

end AccessList.Document
