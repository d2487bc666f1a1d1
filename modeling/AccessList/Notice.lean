import AccessList.Document.Value
import AccessList.Text.Blank

/-! What is reported while a configuration or its settings are read: each notice is a cause, with a
level, the channel that it belongs to and one line of text. -/
namespace AccessList

open Text

inductive Level where
  | debug
  | info
  | warning
  | error
  | critical
  deriving DecidableEq, Repr

namespace Level

def name : Level → String
  | debug => "DEBUG"
  | info => "INFO"
  | warning => "WARNING"
  | error => "ERROR"
  | critical => "CRITICAL"

def rank : Level → Nat
  | debug => 10
  | info => 20
  | warning => 30
  | error => 40
  | critical => 50

def all : List Level := [debug, info, warning, error, critical]

end Level

inductive Complaint where
  | noProtocol
  | noPort
  | sourceOperator
  | destinationOperator
  | serviceKeyword
  deriving DecidableEq, Repr

inductive Notice where
  | clause (complaint : Complaint) (tokens : List String)
  | unnamedSection (keyword line : String)
  | unknownObjectKind (header : List String)
  | serviceObjectKeyword (tokens : List String)
  | unknownGroupKind (header : List String)
  | groupKeyword (kind : String) (tokens : List String)
  | tablesRead (names objects groups : Nat)
  | unsupportedOperand (keyword : String) (tokens : List String)
  | unknownSection (key : Document.Scalar)
  | unknownOption (group : String) (key : Document.Scalar)
  deriving DecidableEq, Repr

def Complaint.text : Complaint → String
  | noProtocol => "Protocol name or protocol number does not exist"
  | noPort => "Port name or port number does not exist"
  | sourceOperator => "Invalid keyword of the source operator"
  | destinationOperator => "Invalid keyword of the destination operator"
  | serviceKeyword => "Invalid keyword in service"

namespace Notice

def level : Notice → Level
  | tablesRead .. => .debug
  | unsupportedOperand .. => .info
  | _ => .warning

def channel : Notice → String
  | clause .. => "aclfabrik.core._grammar"
  | unsupportedOperand .. => "aclfabrik.compiler._normalizer"
  | unknownSection _ | unknownOption .. => "aclfabrik.core.options._loader"
  | _ => "aclfabrik.core._asa_reader"

def message : Notice → String
  | clause complaint tokens => s!"{complaint.text}: {unwords tokens}"
  | unnamedSection keyword line => s!"Missing {keyword} name: {line}"
  | unknownObjectKind header => s!"Unknown object type: {unwords header}"
  | serviceObjectKeyword tokens => s!"Invalid keyword in service object: {unwords tokens}"
  | unknownGroupKind header => s!"Unknown object-group type: {unwords header}"
  | groupKeyword kind tokens => s!"Unknown keyword in {kind} object-group: {unwords tokens}"
  | tablesRead names objects groups =>
    s!"Read {names} names, {objects} objects, {groups} object-groups"
  | unsupportedOperand keyword tokens =>
    s!"Unsupported address keyword \"{keyword}\" in: {unwords tokens}"
  | unknownSection key => s!"Unknown options section \"{key.shown}\" ignored"
  | unknownOption group key => s!"Unknown option \"{group}.{key.shown}\" ignored"

def isWritable : Notice → Bool
  | unknownSection key | unknownOption _ key => key.isShowable
  | _ => true

end Notice
end AccessList
