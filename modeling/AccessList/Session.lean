import AccessList.Config.Reader
import AccessList.Entry.Listing
import AccessList.Flatten.Flattener
import AccessList.Lookup.Search
import AccessList.Settings

/-! Sessions: a configuration is read, listed and flattened under some settings, and queries are looked
up in the records of the last run. A session keeps the diagnostics of all it has done. -/
namespace AccessList

/-- What a session says as it goes along: a notice for the log, or a line for the user. -/
inductive Message where
  | notice (notice : Notice)
  | line (text : String)
  deriving DecidableEq, Repr

structure Session where
  settings : Settings := {}
  verbose : Bool := false
  tracedLabel : String := ""
  symbols : Symbols := {}
  listed : List Record := []
  network : List Record := []
  flattened : List Record := []
  found : Lookup.Matches := {}
  diagnostics : Diagnostics := []

namespace Session

def remark (s : Session) (text : String) : Noted Message Unit := ⟨(), if s.verbose then [.line text] else []⟩

def say (messages : List Message) : Noted Message Unit := ⟨(), messages⟩

def symbolsRemark (s : Symbols) : String :=
  s!"Read {s.names.size} names, {s.networkObjects.size + s.serviceObjects.size} objects"

/-- The flattener of a session traces an entry if one is named. -/
def flattener (s : Session) : Flattener :=
  { symbols := s.symbols
    switches := s.settings.switches
    tracing := ⟨!s.tracedLabel.isEmpty, s.tracedLabel⟩ }

def run (s : Session) (config : String) : Noted Message Session := do
  let symbols ← (Config.read config).mapNotes .notice
  let s := { s with symbols }
  s.remark (symbolsRemark symbols)
  let listing := Listing.ofText symbols config
  say (listing.notices.map .notice)
  s.remark s!"Normalized {listing.records.length} access-list entries"
  let (flattener, traces) := s.flattener.compile listing.records
  say (traces.map .line)
  s.remark s!"Flattened into {flattener.flattened.length} records"
  return { s with
    listed := listing.records
    network := flattener.network
    flattened := flattener.flattened
    diagnostics := s.diagnostics ++ listing.diagnostics ++ flattener.diagnostics }

/-- A look-up that fails leaves no session. -/
def lookUp (s : Session) (queries : String) : Except Numeral.Unreadable (Noted Message Session) :=
  let outcome := Lookup.lookUpText s.flattened queries
  match outcome.failure with
  | some cause => .error cause
  | none =>
    let found := outcome.found
    .ok (do
      s.remark s!"{found.full.length} matches, {found.effective.length} effective"
      return { s with
        found
        diagnostics := s.diagnostics ++ outcome.problems.map Lookup.Problem.diagnostic })

end Session
end AccessList
