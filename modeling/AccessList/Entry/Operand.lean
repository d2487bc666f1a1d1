import AccessList.Symbols

/-! Clauses of access-list entries. Here an operand may name an object or a group, and which clauses
may follow the addresses hangs on the traits of the entry's protocol. -/
namespace AccessList

/-- The protocol numbers, each in its one written form. -/
def Protocol.isNumber (p : String) : Bool := (List.range 256).any fun n => toString n = p

/-- A service hides a protocol group of the same alias, and both hide a protocol. -/
def Symbols.traits (s : Symbols) (p : String) : Traits :=
  if s.serviceObjects.contains p || s.serviceGroups.contains p then { service := true }
  else match s.protocolGroups.get? p with
    | some members => members.foldl (fun t m => t.union (Traits.ofProtocol m)) Traits.none
    | none => (Traits.supported.lookup p).getD
      (if Protocol.isNumber p then { unsupported := true } else Traits.none)

namespace Entry

open Clause

def unsupportedOperands : List String :=
  ["interface", "object-group-security", "object-group-user", "security-group", "user", "user-group"]

/-- An address, or the name of an object or a group, whether or not it is defined. -/
def address (s : Symbols) (line rest : List String) : Noted Notice Clause :=
  let t := token rest
  if t.isEmpty then pure absent
  else if t = "object" || t = "object-group" then pure ⟨token (rest.drop 1), 2⟩
  else if unsupportedOperands.contains t then
    ⟨⟨Field.undefined, 2⟩, [.unsupportedOperand t line]⟩
  else pure (Clause.address s.names rest)

/-- An address; an object or a group has to be defined, or else the clause is absent. -/
def definedAddress (s : Symbols) (line rest : List String) : Noted Notice Clause :=
  let symbol := token (rest.drop 1)
  if token rest = "object-group" then
    pure (if s.hasGroup .network symbol then ⟨symbol, 2⟩ else absent)
  else if token rest = "object" then
    pure (if (s.object? .network symbol).isSome then ⟨symbol, 2⟩ else absent)
  else address s line rest

/-- A protocol, or a defined group or service. A protocol takes its token even where it is missing. -/
def protocol (s : Symbols) (line rest : List String) : Noted Notice Clause := do
  let symbol := token (rest.drop 1)
  if token rest = "object-group" then
    return if s.hasGroup .protocol symbol || s.hasGroup .service symbol then ⟨symbol, 2⟩ else absent
  else if token rest = "object" then
    return if (s.object? .service symbol).isSome then ⟨symbol, 2⟩ else absent
  else return ⟨(← within line (Clause.protocol rest)).value, 1⟩

/-- A port condition or a group, any port where there is neither. A group of networks is the next
address and is left. -/
def portOrGroup (s : Symbols) (family : PortFamily) (line rest : List String) :
    Noted Notice Clause := do
  let absent : Clause := ⟨Field.anyPort, 0⟩
  let group := token (rest.drop 1)
  if (token rest).isEmpty then return absent
  else if token rest = "object-group" then
    return if s.hasGroup .network group then absent else ⟨group, 2⟩
  else
    let c ← within line (portCondition family rest)
    return if c.taken = 0 then absent else c

/-- A group of ports comes first, also where a group of networks has the same alias. -/
def port (s : Symbols) (family : PortFamily) (line rest : List String) : Noted Notice Clause :=
  let group := token (rest.drop 1)
  if token rest = "object-group" && s.hasGroup .port group then pure ⟨group, 2⟩
  else portOrGroup s family line rest

/-- An ICMP type and code or a group, any type where there is neither. -/
def icmpOrGroup (version : IcmpVersion) (rest : List String) : Clause :=
  if token rest = "object-group" then ⟨token (rest.drop 1), 2⟩ else icmp version rest

/-- Groups of ICMP types have to be defined. -/
def definedIcmp (s : Symbols) (version : IcmpVersion) (rest : List String) : Clause :=
  let group := token (rest.drop 1)
  if token rest = "object-group" then
    if s.hasGroup .icmpType group then ⟨group, 2⟩ else absent
  else icmpOrGroup version rest

/-- After a service a group may follow, which the next token but one names. Without one the service
brings the value, and a mark in front of its alias holds the place. -/
def serviceGroup (isGroup : String → Bool) (service : String) (rest : List String) : Clause :=
  let group := token (rest.drop 1)
  if isGroup group then ⟨group, 2⟩ else ⟨"?" ++ service, 0⟩

def isInactive (rest : List String) : Bool := rest.contains "inactive"

end Entry
end AccessList
