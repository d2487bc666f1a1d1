import AccessList.Diagnostics
import AccessList.Flatten.Chain

/-! The flattener runs the enabled stages as a chain. It keeps the records as they are right after the
network stage and as they are at the end, warns of every record that expands to nothing, and shows
one entry after each stage when it is asked to. -/
namespace AccessList

structure Tracing where
  on : Bool := false
  label : String := ""
  deriving DecidableEq, Repr

structure Flattener where
  symbols : Symbols
  switches : Switches := {}
  tracing : Tracing := {}
  diagnostics : Diagnostics := []
  links : List Chain.Link := []
  network : List Record := []
  flattened : List Record := []

namespace Flattener

open Chain

def networkTitle : String := "Store network flattened rules"
def flattenedTitle : String := "Store flattened rules"

/-- Adds a link at the end of a chain. Every link but a store is traced. -/
def addLink (traced : Bool) (links : List Link) (role : Role) : List Link :=
  let link : Link := { role }
  match role with
  | .store _ _ => link :: links
  | _ => if traced then { role := .trace } :: link :: links else link :: links

def stageRoles : Stage → List Role
  | .network => [.expand .network, .store networkTitle {}]
  | stage => [.expand stage]

def roles (stages : List Stage) : List Role :=
  .source false :: stages.flatMap stageRoles ++ [.store flattenedTitle {}]

def chain (traced : Bool) (stages : List Stage) : List Link :=
  (roles stages).foldl (addLink traced) []

/-- The records in the store of a title, none if the chain has no such store. -/
def stored (title : String) (links : List Link) : List Record :=
  (links.findSome? fun link => match link.role with
    | .store t kept => if t = title then some kept.toList else none
    | _ => none).getD []

def diagnosticOf : Event → Option Diagnostic
  | .dropped stage r => some (.about .warning r stage.dropMessage)
  | .traced .. => none

/-- The flattener after a run, and the lines that its traces show. -/
def compile (f : Flattener) (records : List Record) : Flattener × List String :=
  let setting : Setting := ⟨f.symbols, records, f.tracing.label⟩
  let (_, links, events) := run setting (chain f.tracing.on f.switches.enabled)
  ({ f with
      links
      network := stored networkTitle links
      flattened := stored flattenedTitle links
      diagnostics := f.diagnostics ++ events.filterMap diagnosticOf },
    events.flatMap Event.lines)

def titles (f : Flattener) : List String := (f.links.map (·.role.title)).reverse

end Flattener
end AccessList
