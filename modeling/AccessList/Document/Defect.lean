import AccessList.Document.Moment
import AccessList.Numeral
import AccessList.Text.Utf8

/-! Why a document has no value. -/
namespace AccessList.Document

inductive Defect where
  | malformed
  | undecodable (cause : Text.Malformed)
  | character (code : Nat)
  | integer (cause : Numeral.Unreadable)
  | noInteger
  | fraction (text : String)
  | tooGreat
  | boolean (text : String)
  | moment (cause : Unreal)
  | noMoment
  | noText
  | tooDeep
  deriving DecidableEq, Repr

def Defect.message : Defect → String
  | malformed => "the document is malformed"
  | undecodable cause => cause.message
  | character code =>
    if code < 0x80000000 then "chr() arg not in range(0x110000)"
    else "Python int too large to convert to C int"
  | integer cause => cause.message
  | noInteger => "string index out of range"
  | fraction text => s!"could not convert string to float: {Text.quote text}"
  | tooGreat => "int too large to convert to float"
  | boolean text => Text.quote text
  | moment cause => cause.message
  | noMoment => "'NoneType' object has no attribute 'groupdict'"
  | noText => "expected string or bytes-like object, got 'list'"
  | tooDeep => "maximum recursion depth exceeded"

/-- Where reading stops, and how many characters have been looked at by then. -/
structure Stop where
  defect : Defect := .malformed
  reach : Nat
  deriving DecidableEq, Repr

end AccessList.Document
