import AccessList.Diagnostics
import AccessList.Lookup.Within

/-! Searching records for a query. A record matches if its fields hold every address of the query. A
match takes effect if it is active and no match before it in the same list already denies all of
the query's traffic; the search keeps the name of the list in which that happened. -/
namespace AccessList.Lookup

structure Match where
  tag : String
  record : Record
  deriving DecidableEq, Repr

def Match.toCsv (m : Match) : String := s!"{m.tag},{m.record.toCsv}"

structure Matches where
  full : List Match := []
  effective : List Match := []
  deriving DecidableEq, Repr

def Matches.append (a b : Matches) : Matches := ⟨a.full ++ b.full, a.effective ++ b.effective⟩

structure Target where
  query : Query
  source : String
  destination : String

def target? (q : Query) : Option Target := do
  let source ← if q.source.isGiven then q.source.canonical? else some ""
  let destination ← if q.destination.isGiven then q.destination.canonical? else some ""
  return ⟨q, source, destination⟩

/-- A query that gives no address at all is compared as if it gave both. The destination is looked at
only where the source does not rule the record out. -/
def isMatch (t : Target) (r : Record) : Except Numeral.Unreadable Bool :=
  let { source, destination } := t.query
  let inSource := isWithin r.source t.source source.kind
  let inDestination := isWithin r.destination t.destination destination.kind
  if source.isGiven && !destination.isGiven then inSource
  else if destination.isGiven && !source.isGiven then inDestination
  else do if ← inSource then inDestination else return false

def shadows (q : Query) (r : Record) : Bool :=
  if r.action ≠ "deny" || !r.isActive || r.protocol ≠ "ip" then false
  else if r.source = Field.anyAddress && r.destination = Field.anyAddress then true
  else if q.destination.isGiven && !q.source.isGiven then false
  else if r.destination = Field.anyAddress then true
  else if q.source.isGiven && !q.destination.isGiven then false
  else match q.destination.kind with
    | .v4 => r.destination = Field.anyAddress4
    | .v6 => r.destination = Field.anyAddress6
    | _ => false

/-- A search stops at a prefix length that cannot be read; what it found before stays. -/
structure Search where
  shadowed : String := ""
  full : Array Match := #[]
  effective : Array Match := #[]
  failure : Option Numeral.Unreadable := none

def Search.matches (s : Search) : Matches := ⟨s.full.toList, s.effective.toList⟩

def visit (t : Target) (s : Search) (r : Record) : Search :=
  if s.failure.isSome then s
  else
    let s := if s.shadowed = r.list then s else { s with shadowed := "" }
    match isMatch t r with
    | .error cause => { s with failure := some cause }
    | .ok false => s
    | .ok true =>
      let found : Match := ⟨t.query.tag, r⟩
      { s with
        full := s.full.push found
        effective := if r.isActive && s.shadowed.isEmpty then s.effective.push found else s.effective
        shadowed := if shadows t.query r then r.list else s.shadowed }

def search (t : Target) (records : List Record) : Search := records.foldl (visit t) {}

inductive Problem where
  | invalidLine (line : String)
  | invalidAddress (query : Query)
  deriving DecidableEq, Repr

def Problem.message : Problem → String
  | invalidLine line => s!"Invalid lookup query skipped: {line}"
  | invalidAddress q =>
    s!"Invalid IPv6 address in lookup query: {q.source.text},{q.destination.text}"

def Problem.diagnostic (p : Problem) : Diagnostic := .general .warning p.message

structure Outcome where
  found : Matches := {}
  problems : List Problem := []
  failure : Option Numeral.Unreadable := none

/-- A query with a malformed address finds nothing. -/
def lookUp (records : List Record) (q : Query) : Outcome :=
  match target? q with
  | none => { problems := [.invalidAddress q] }
  | some t =>
    let s := search t records
    { found := s.matches, failure := s.failure }

/-- A line that is neither blank nor a comment nor a query is a problem. -/
def lookUpLine (records : List Record) (line : String) : Outcome :=
  match Query.ofLine? line with
  | some q => lookUp records q
  | none =>
    let line := Text.trim line
    if line.isEmpty || Query.isComment line then {} else { problems := [.invalidLine line] }

def Outcome.andThen (a : Outcome) (b : Unit → Outcome) : Outcome :=
  if a.failure.isSome then a
  else
    let b := b ()
    ⟨a.found.append b.found, a.problems ++ b.problems, b.failure⟩

/-- The matches of all lines in order, up to the first failure. -/
def lookUpLines (records : List Record) (lines : List String) : Outcome :=
  lines.foldl (fun sofar line => sofar.andThen fun _ => lookUpLine records line) {}

def lookUpText (records : List Record) (text : String) : Outcome :=
  lookUpLines records (Text.lines text)

end AccessList.Lookup
