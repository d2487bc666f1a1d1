import AccessList.Record
import AccessList.Symbols

/-! The stages of flattening. A stage replaces one kind of alias in a record by the values it stands
for and gives one record for each of them, or for each pair where two fields hold such aliases. -/
namespace AccessList

open Text

inductive Stage where
  | network
  | protocol
  | service
  | port
  | icmpType
  deriving DecidableEq, Repr

namespace Stage

def all : List Stage := [network, protocol, service, port, icmpType]

def key : Stage → String
  | network => "network"
  | protocol => "protocol"
  | service => "service"
  | port => "port"
  | icmpType => "icmp_type"

def title : Stage → String
  | network => "Flatten network objects"
  | protocol => "Flatten protocol object-groups"
  | service => "Flatten service objects"
  | port => "Flatten port object-groups"
  | icmpType => "Flatten icmp-type object-groups"

def ofKey? (key : String) : Option Stage := all.find? (·.key = key)

end Stage

structure UnknownStage where
  key : String

def UnknownStage.message (e : UnknownStage) : String :=
  s!"{quote e.key} is not a valid FlattenOption"

namespace Record

/-- The record with the protocol of a descriptor, and with the ports or the ICMP type and code that the
descriptor carries. One of another shape is kept whole as a protocol. -/
def withService (r : Record) (descriptor : String) : Record :=
  match fields '/' descriptor with
  | [protocol] => { r with protocol }
  | [protocol, type, code] => { r with protocol, icmp := s!"{type}/{code}" }
  | [protocol, sourceOp, source, destinationOp, destination] =>
    { r with
      protocol
      sourcePort := s!"{sourceOp}/{source}"
      destinationPort := s!"{destinationOp}/{destination}" }
  | _ => { r with protocol := descriptor }

def withoutClauses (r : Record) : Record :=
  { r with
    sourcePort := Field.notApplicable
    destinationPort := Field.notApplicable
    icmp := Field.notApplicable }

end Record

/-- A type without a code stands for all its codes. -/
def Icmp.withCode (icmp : String) : String := if has '/' icmp then icmp else s!"{icmp}/any"

namespace Stage

def expand (s : Symbols) : Stage → Record → List Record
  | network, r =>
    (s.members .network r.source).flatMap fun source =>
      (s.members .network r.destination).map fun destination => { r with source, destination }
  | protocol, r => (s.members .protocol r.protocol).map fun protocol => { r with protocol }
  | service, r =>
    let services := s.members .service r.protocol
    let base := if services.head? = some r.protocol then r else r.withoutClauses
    services.map base.withService
  | port, r =>
    (s.members .port r.sourcePort).flatMap fun sourcePort =>
      (s.members .port r.destinationPort).map fun destinationPort =>
        { r with sourcePort, destinationPort }
  | icmpType, r =>
    (s.members .icmpType r.icmp).map fun icmp => { r with icmp := Icmp.withCode icmp }

def dropMessage (stage : Stage) : String := s!"{stage.title}: nothing to expand, rule dropped"

end Stage
end AccessList
