import AccessList.Address.Cidr
import AccessList.Text.Blank
import AccessList.Text.Lines

/-! Queries. A query asks for a source, a destination or both, each an address with a prefix length or
a domain name; its line is `SOURCE,DESTINATION`, and what follows a second comma is a comment. -/
namespace AccessList

inductive AddressKind where
  | unknown
  | v4
  | v6
  | domain
  deriving DecidableEq, Repr

namespace AddressKind

open Text

def isLabelChar (c : Char) : Bool :=
  isDecimal c || ('A' ≤ c && c ≤ 'Z') || ('a' ≤ c && c ≤ 'z') || c = '-'

/-- Whether the characters so far make whole labels, and for each place so far, the nearest first,
whether a label can start there. A label has 3 to 63 characters and no hyphen at its ends. -/
def labelStep (s : Bool × List Bool) (c : Char) : Bool × List Bool :=
  let starts := (s.1 && c ≠ '-') :: s.2
  (c ≠ '-' && ((starts.drop 2).take 61).any id, starts)

/-- One label or more, without dots between them. -/
def isLabelRun (s : List Char) : Bool :=
  !s.isEmpty && s.all isLabelChar && (s.foldl labelStep (true, [])).1

/-- Runs of labels between dots; one dot may follow the last of them. -/
def isDomain (s : String) : Bool :=
  let runs := s.toList.splitOn '.'
  let runs := if 1 < runs.length && runs.getLast? = some [] then runs.dropLast else runs
  runs.all isLabelRun

/-- A dotted quad, as far as its shape goes, and a prefix length of decimal digits. -/
def isQuadCidr (s : String) : Bool :=
  match fields '/' s with
  | [host, length] => Address.looksDotted host && !length.isEmpty && length.toList.all isDecimal
  | _ => false

def classify (s : String) : AddressKind :=
  if isQuadCidr s then .v4
  else if has ':' s then .v6
  else if isDomain s then .domain
  else .unknown

end AddressKind

structure QueryAddress where
  text : String := ""
  kind : AddressKind := .unknown
  deriving DecidableEq, Repr

namespace QueryAddress

def isGiven (a : QueryAddress) : Bool := !a.text.isEmpty

/-- The form an address is compared in, in full for version 6, where it is a host unless it has a
prefix length. There is none for a malformed address of version 6. -/
def canonical? (a : QueryAddress) : Option String :=
  if a.kind = .v6 then
    let cidr := if Text.has '/' a.text then a.text else s!"{a.text}/128"
    Address.beforeSlash Address.full? cidr
  else some a.text

/-- An address of a query line, if it is one of the known kinds; nothing is an address not given. -/
def read? (s : String) : Option QueryAddress :=
  if s.isEmpty then some {}
  else match AddressKind.classify s with
    | .unknown => none
    | kind => some ⟨s, kind⟩

end QueryAddress

structure Query where
  source : QueryAddress := {}
  destination : QueryAddress := {}
  deriving DecidableEq, Repr

namespace Query

open Text

def tag (q : Query) : String :=
  if q.source.isGiven && !q.destination.isGiven then s!"from_{q.source.text}"
  else if q.destination.isGiven && !q.source.isGiven then s!"to_{q.destination.text}"
  else s!"from_{q.source.text}_to_{q.destination.text}"

def isComment (line : String) : Bool := startsWith "!" line || startsWith "#" line

/-- No query is read from a blank line, a comment, or a line with an unknown address. -/
def ofLine? (line : String) : Option Query :=
  let line := trim line
  if line.isEmpty || isComment line then none
  else
    let parts := (fields ',' line).map trim
    let source := parts.headD ""
    let destination := (parts.drop 1).headD ""
    if source.isEmpty && destination.isEmpty then none
    else do return ⟨← QueryAddress.read? source, ← QueryAddress.read? destination⟩

def ofText (text : String) : List Query := (lines text).filterMap ofLine?

end Query
end AccessList
