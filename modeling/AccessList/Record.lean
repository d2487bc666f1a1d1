import AccessList.Numeral
import AccessList.Text.Cut

/-! Records. A record is one entry of an access list in eleven fields, and its CSV line joins them by
commas. Before it is flattened a record may name objects and groups; then its fields are concrete. -/
namespace AccessList

structure Record where
  list : String := ""
  line : Int := 0
  type : String := ""
  action : String := ""
  protocol : String := ""
  source : String := ""
  sourcePort : String := ""
  destination : String := ""
  destinationPort : String := ""
  icmp : String := ""
  state : String := "active"
  deriving DecidableEq, Repr

inductive CsvError where
  | fieldCount (count : Nat) (line : String)
  | lineNumber (cause : Numeral.Unreadable)
  deriving DecidableEq, Repr

namespace Record

def columns : List String :=
  ["ACL_NAME", "ACL_LINE", "TYPE", "PERMIT", "PROTOCOL", "SRC_ADDR", "SRC_PORT", "DST_ADDR",
    "DST_PORT", "ICMP_TYPE_CODE", "STATE"]

/-- The list and the line together name an entry in messages. Only line numbers that can be written
(`Numeral.isWritable`) have labels and CSV lines; no text of bearable length gives a record another one. -/
def label (r : Record) : String := s!"{r.list}:{r.line}"

def isActive (r : Record) : Bool := r.state = "active"

def toFields (r : Record) : List String :=
  [r.list, toString r.line, r.type, r.action, r.protocol, r.source, r.sourcePort, r.destination,
    r.destinationPort, r.icmp, r.state]

def toCsv (r : Record) : String := String.intercalate "," r.toFields

def header : String := String.intercalate "," columns

def ofCsv (text : String) : Except CsvError Record :=
  let parts := Text.fields ',' (Text.trim text)
  match parts with
  | [list, line, type, action, protocol, source, sourcePort, destination, destinationPort, icmp,
      state] =>
    match Numeral.read line with
    | .ok line =>
      .ok { list, line, type, action, protocol, source, sourcePort, destination, destinationPort,
            icmp, state }
    | .error cause => .error (.lineNumber cause)
  | _ => .error (.fieldCount parts.length text)

end Record

def CsvError.message : CsvError → String
  | fieldCount count line => s!"Expected {Record.columns.length} fields, got {count}: {line}"
  | lineNumber cause => cause.message

end AccessList
