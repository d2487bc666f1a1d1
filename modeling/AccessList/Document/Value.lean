import AccessList.Document.Fraction
import AccessList.Document.Moment
import AccessList.Text.Bytes

/-! Values of a document of settings. A value is a scalar, a list, a set of scalars, or a mapping from
scalars to values, and a mapping has each key once. -/
namespace AccessList.Document

inductive Scalar where
  | null
  | boolean (b : Bool)
  | integer (n : Int)
  | fraction (f : Fraction)
  | text (s : String)
  | bytes (bytes : List UInt8)
  | day (d : Day)
  | moment (m : Moment)
  deriving DecidableEq, Repr

inductive Value where
  | scalar (s : Scalar)
  | list (items : List Value)
  | set (members : List Scalar)
  | mapping (entries : List (Scalar × Value))
  deriving Repr

inductive Kind where
  | null
  | boolean
  | integer
  | fraction
  | text
  | bytes
  | day
  | moment
  | list
  | set
  | mapping
  deriving DecidableEq, Repr

def Kind.name : Kind → String
  | null => "NoneType"
  | boolean => "bool"
  | integer => "int"
  | fraction => "float"
  | text => "str"
  | bytes => "bytes"
  | day => "date"
  | moment => "datetime"
  | list => "list"
  | set => "set"
  | mapping => "dict"

namespace Scalar

def kind : Scalar → Kind
  | null => .null
  | boolean _ => .boolean
  | integer _ => .integer
  | fraction _ => .fraction
  | text _ => .text
  | bytes _ => .bytes
  | day _ => .day
  | moment _ => .moment

def shown : Scalar → String
  | null => "None"
  | boolean true => "True"
  | boolean false => "False"
  | integer n => toString n
  | fraction f => f.text
  | text s => String.ofList (Text.joinHalves s.toList)
  | bytes bs => Text.quoteBytes bs
  | day d => d.text
  | moment m => m.text

def isShowable : Scalar → Bool
  | integer n => Numeral.isWritable n
  | _ => true

/-- The whole number that a scalar is. Booleans count as one and zero. -/
def number? : Scalar → Option Int
  | boolean b => some b.toNat
  | integer n => some n
  | fraction f => f.whole?
  | _ => none

def instant? : Scalar → Option Int
  | moment m => m.instant?
  | _ => none

/-- Whether two scalars are one key of a mapping. -/
def sameKey (a b : Scalar) : Bool :=
  a = b || (a.number?.isSome && a.number? = b.number?) ||
    (a.instant?.isSome && a.instant? = b.instant?)

/-- Whether a scalar says nothing: null, false, zero, the empty text or no bytes. -/
def isBlank : Scalar → Bool
  | null => true
  | text s => s.isEmpty
  | bytes bs => bs.isEmpty
  | scalar => scalar.number? = some 0

theorem sameKey_self (a : Scalar) : a.sameKey a = true := by simp [sameKey]

end Scalar

namespace Value

def kind : Value → Kind
  | scalar s => s.kind
  | list _ => .list
  | set _ => .set
  | mapping _ => .mapping

/-- Whether a value says nothing: a blank scalar, or a collection of nothing. -/
def isBlank : Value → Bool
  | scalar s => s.isBlank
  | list items => items.isEmpty
  | set members => members.isEmpty
  | mapping entries => entries.isEmpty

def null : Value := scalar .null

/-- A key that is there keeps its place and its spelling and takes the new value. -/
def put (key : Scalar) (value : Value) : List (Scalar × Value) → List (Scalar × Value)
  | [] => [(key, value)]
  | (k, v) :: rest => if k.sameKey key then (k, value) :: rest else (k, v) :: put key value rest

def ofEntries (entries : List (Scalar × Value)) : Value :=
  mapping (entries.foldl (fun m (key, value) => put key value m) [])

end Value
end AccessList.Document
