import AccessList.Clause
import AccessList.Text.JsonString

/-! The symbols of a configuration: names, objects and groups, each alias with the values it stands
for. Members of a group keep their order and their repetitions. -/
namespace AccessList

inductive GroupKind where
  | network
  | service
  | port
  | protocol
  | icmpType
  deriving DecidableEq, Repr

def GroupKind.all : List GroupKind := [.network, .service, .port, .protocol, .icmpType]

structure Symbols where
  names : Table Name := {}
  networkObjects : Table String := {}
  serviceObjects : Table String := {}
  networkGroups : Table (List String) := {}
  serviceGroups : Table (List String) := {}
  portGroups : Table (List String) := {}
  protocolGroups : Table (List String) := {}
  icmpTypeGroups : Table (List String) := {}
  deriving DecidableEq, Repr

namespace Symbols

def groups (s : Symbols) : GroupKind → Table (List String)
  | .network => s.networkGroups
  | .service => s.serviceGroups
  | .port => s.portGroups
  | .protocol => s.protocolGroups
  | .icmpType => s.icmpTypeGroups

def withGroups (s : Symbols) (kind : GroupKind) (t : Table (List String)) : Symbols :=
  match kind with
  | .network => { s with networkGroups := t }
  | .service => { s with serviceGroups := t }
  | .port => { s with portGroups := t }
  | .protocol => { s with protocolGroups := t }
  | .icmpType => { s with icmpTypeGroups := t }

theorem groups_withGroups (s : Symbols) (kind other : GroupKind) (t : Table (List String)) :
    (s.withGroups kind t).groups other = if other = kind then t else s.groups other := by
  cases kind <;> cases other <;> rfl

def hasGroup (s : Symbols) (kind : GroupKind) (symbol : String) : Bool := (s.groups kind).contains symbol

/-- Objects without a value count as undefined. -/
def objects? (s : Symbols) : GroupKind → Option (Table String)
  | .network => some s.networkObjects
  | .service => some s.serviceObjects
  | _ => none

def object? (s : Symbols) (kind : GroupKind) (symbol : String) : Option String :=
  (s.objects? kind).bind fun t => (t.get? symbol).filter (!·.isEmpty)

/-- What a field of a record stands for: nothing if it is empty, the object or the members of the
group that it names, or else itself. An object hides a group of the same alias. -/
def members (s : Symbols) (kind : GroupKind) (field : String) : List String :=
  if field.isEmpty then []
  else match s.object? kind field with
    | some value => [value]
    | none => ((s.groups kind).get? field).getD [field]

def nameLines (s : Symbols) : List String :=
  s.names.entries.map fun (symbol, name) =>
    s!"{symbol},\x7b\"address\":{Text.jsonString name.address}," ++
      s!"\"description\":{Text.jsonString name.description}\x7d"

def objectLines (t : Table String) : List String :=
  t.entries.map fun (symbol, value) => s!"{symbol},{value}"

def groupLines (t : Table (List String)) : List String :=
  t.entries.flatMap fun (symbol, members) => members.map fun m => s!"{symbol},{m}"

end Symbols
end AccessList
