import AccessList.Record
import AccessList.Table

/-! Diagnostics. A diagnostic about a record names the record's label. A ledger takes diagnostics in one after
another: it keeps the worst severity so far as its status, the texts of each severity, and under each label
the texts that name it. -/
namespace AccessList

inductive Severity where
  | warning
  | error
  deriving DecidableEq, Repr

inductive Status where
  | success
  | warning
  | error
  deriving DecidableEq, Repr

namespace Status

def name : Status → String
  | success => "SUCCESS"
  | warning => "WARNING"
  | error => "ERROR"

def rank : Status → Nat
  | success => 0
  | warning => 1
  | error => 2

instance : Max Status := ⟨fun a b => if a.rank < b.rank then b else a⟩

end Status

structure Diagnostic where
  severity : Severity
  label : Option String
  text : String
  deriving DecidableEq, Repr

namespace Diagnostic

def about (severity : Severity) (r : Record) (message : String) : Diagnostic :=
  ⟨severity, some r.label, s!"ACL line {r.label}: {message}"⟩

def general (severity : Severity) (message : String) : Diagnostic := ⟨severity, none, message⟩

def of (severity : Severity) (subject : Option Record) (message : String) : Diagnostic :=
  match subject with
  | some r => about severity r message
  | none => general severity message

end Diagnostic

structure Ledger where
  status : Status := .success
  errors : Array String := #[]
  warnings : Array String := #[]
  byLabel : Table (Array String) := {}

namespace Ledger

def underLabel (l : Ledger) (label : String) : Array String := (l.byLabel.get? label).getD #[]

/-- The texts under each label, with one that names a label after those that came before it. -/
def filed (l : Ledger) (d : Diagnostic) : Table (Array String) :=
  match d.label with
  | some label => l.byLabel.insert label ((l.underLabel label).push d.text)
  | none => l.byLabel

/-- An error is the worst status there is; a warning leaves a worse one as it is. -/
def add (l : Ledger) (d : Diagnostic) : Ledger :=
  match d.severity with
  | .error => { l with errors := l.errors.push d.text, byLabel := l.filed d, status := .error }
  | .warning =>
    { l with warnings := l.warnings.push d.text, byLabel := l.filed d, status := max l.status .warning }

def error (l : Ledger) (subject : Option Record) (message : String) : Ledger :=
  l.add (.of .error subject message)

def warning (l : Ledger) (subject : Option Record) (message : String) : Ledger :=
  l.add (.of .warning subject message)

/-- The distinct texts about a record, warnings and errors alike, each at its first place. -/
def ofRecord (l : Ledger) (r : Record) : List String := (l.underLabel r.label).toList.eraseDups

end Ledger

/-- Diagnostics in the order in which they came. What they amount to is read off the ledger that took them in. -/
abbrev Diagnostics := List Diagnostic

namespace Diagnostics

def ledger (ds : Diagnostics) : Ledger := ds.foldl Ledger.add {}

def warnings (ds : Diagnostics) : List String := ds.ledger.warnings.toList

def errors (ds : Diagnostics) : List String := ds.ledger.errors.toList

def status (ds : Diagnostics) : Status := ds.ledger.status

def ofRecord (ds : Diagnostics) (r : Record) : List String := ds.ledger.ofRecord r

end Diagnostics
end AccessList
