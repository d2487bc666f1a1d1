import AccessList.Entry.Operand
import AccessList.Record

/-! Reading an access-list entry into a record. A standard entry has one address; an extended entry has
a protocol, a source and a destination, each address followed by the clauses of its protocol. -/
namespace AccessList.Entry

open Clause

structure Trailer where
  port : String
  icmp : String
  taken : Nat

/-- The port of the source. Protocols without clauses have none, and an unknown protocol stands in for
its own. -/
def sourcePort (s : Symbols) (protocol : String) (line rest : List String) :
    Noted Notice Clause :=
  let traits := s.traits protocol
  if !traits.allowsPorts || traits.isIcmp then pure ⟨Field.notApplicable, 0⟩
  else if traits.hasPorts then port s (if traits.tcp then .tcp else .udp) line rest
  else if traits.service then pure (serviceGroup (s.hasGroup .port) protocol rest)
  else pure ⟨protocol, 0⟩

def trailer (s : Symbols) (protocol : String) (line rest : List String) :
    Noted Notice Trailer := do
  let traits := s.traits protocol
  if !traits.allowsPorts then return ⟨Field.notApplicable, Field.notApplicable, 0⟩
  else if traits.isIcmp then
    let c := definedIcmp s (if traits.icmp6 then .v6 else .v4) rest
    return ⟨Field.notApplicable, c.value, c.taken⟩
  else if traits.hasPorts then
    let c ← port s (if traits.tcp then .tcp else .udp) line rest
    return ⟨c.value, Field.notApplicable, c.taken⟩
  else if traits.service then
    let c := serviceGroup (fun g => s.hasGroup .port g || s.hasGroup .icmpType g) protocol rest
    return ⟨c.value, c.value, c.taken⟩
  else return ⟨protocol, protocol, 0⟩

def state (rest : List String) : String := if isInactive rest then "inactive" else "active"

/-- `access-list NAME standard ACTION ADDRESS`. -/
def standard (s : Symbols) (tokens : List String) (number : Nat) : Noted Notice Record := do
  let rest := tokens.drop 4
  let destination ← address s tokens rest
  return {
    list := token (tokens.drop 1)
    line := number
    type := token (tokens.drop 2)
    action := token (tokens.drop 3)
    protocol := "ip"
    source := Field.anyAddress4
    sourcePort := Field.notApplicable
    destination := destination.value
    destinationPort := Field.notApplicable
    icmp := Field.notApplicable
    state := state (rest.drop destination.taken) }

/-- `access-list NAME extended ACTION PROTOCOL SOURCE [PORT] DESTINATION [PORT | ICMP]`. -/
def extended (s : Symbols) (tokens : List String) (number : Nat) : Noted Notice Record := do
  let rest := tokens.drop 4
  let protocol ← protocol s tokens rest
  let rest := rest.drop protocol.taken
  let source ← definedAddress s tokens rest
  let rest := rest.drop source.taken
  let sourcePort ← sourcePort s protocol.value tokens rest
  let rest := rest.drop sourcePort.taken
  let destination ← definedAddress s tokens rest
  let rest := rest.drop destination.taken
  let trailer ← trailer s protocol.value tokens rest
  return {
    list := token (tokens.drop 1)
    line := number
    type := token (tokens.drop 2)
    action := token (tokens.drop 3)
    protocol := protocol.value
    source := source.value
    sourcePort := sourcePort.value
    destination := destination.value
    destinationPort := trailer.port
    icmp := trailer.icmp
    state := state (rest.drop trailer.taken) }

end AccessList.Entry
