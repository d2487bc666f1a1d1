import AccessList.Entry.Reader

/-! The grammar of extended entries. Each operand is a few tokens and has a canonical value; which clauses
may follow the addresses is a matter of the protocol's traits. -/
namespace AccessList

/-- Tables whose groups can be told apart by their aliases. -/
structure Symbols.Distinct (s : Symbols) : Prop where
  ports : ∀ g, s.hasGroup .port g = true → s.hasGroup .network g = false
  protocols : ∀ p, s.hasGroup .protocol p = true →
    s.serviceObjects.contains p = false ∧ s.serviceGroups.contains p = false

/-- No object or group that may stand in place of a protocol has this alias. -/
structure Symbols.Unaliased (s : Symbols) (p : String) : Prop where
  serviceObjects : s.serviceObjects.contains p = false
  serviceGroups : s.serviceGroups.contains p = false
  protocolGroups : s.protocolGroups.contains p = false

namespace Entry

inductive ProtocolOperand (s : Symbols) : List String → String → Prop where
  | ip (free : s.Unaliased "ip") : ProtocolOperand s ["ip"] "ip"
  | name {p : String} {n : Nat} (known : (p, n) ∈ Protocol.names) (free : s.Unaliased (toString n)) :
      ProtocolOperand s [p] (toString n)
  | number {n : Nat} (bound : n < 256) (free : s.Unaliased (toString n)) :
      ProtocolOperand s [toString n] (toString n)
  | group {p : String} (defined : s.hasGroup .protocol p = true) (classified : s.traits p ≠ Traits.none) :
      ProtocolOperand s ["object-group", p] p

inductive AddressOperand (s : Symbols) : List String → String → Prop where
  | any : AddressOperand s ["any"] Field.anyAddress
  | any4 : AddressOperand s ["any4"] Field.anyAddress4
  | any6 : AddressOperand s ["any6"] Field.anyAddress6
  | host4 {a : String} {address : Address .v4} (read : Family.v4.read? a = some address)
      (literal : s.names.get? a = none) : AddressOperand s ["host", a] s!"{a}/32"
  | host6 {a : String} {address : Address .v6} (read : Family.v6.read? a = some address)
      (literal : s.names.get? a = none) :
      AddressOperand s ["host", a] s!"{Address.Hextets.full address}/128"
  | masked {a m : String} {address mask : Address .v4} (read : Family.v4.read? a = some address)
      (literal : s.names.get? a = none) (netmask : Family.v4.read? m = some mask) :
      AddressOperand s [a, m] s!"{a}/{Address.maskLength mask}"
  | sized {a p : String} {address : Address .v6} (read : Family.v6.read? a = some address)
      (literal : s.names.get? a = none) :
      AddressOperand s [s!"{a}/{p}"] s!"{Address.Hextets.full address}/{p}"
  | object {o : String} (defined : (s.object? .network o).isSome = true) :
      AddressOperand s ["object", o] o
  | group {g : String} (defined : s.hasGroup .network g = true) : AddressOperand s ["object-group", g] g

/-- A port and the text that a condition has for it. Unknown names stay. -/
inductive PortName (family : PortFamily) : String → String → Prop where
  | number {p : String} (integer : Numeral.isInteger p = true) : PortName family p p
  | known {p : String} {n : Nat} (known : Port.number? p family = some n) :
      PortName family p (toString n)
  | unknown {p : String} (given : p ≠ "") (unknown : Port.number? p family = none) : PortName family p p

inductive PortOperand (s : Symbols) (family : PortFamily) : List String → String → Prop where
  | compare {operator p v : String} (comparison : operator ∈ Port.comparisons)
      (port : PortName family p v) : PortOperand s family [operator, p] s!"{operator}/{v}"
  | range {p q low high : String} (first : PortName family p low) (last : PortName family q high) :
      PortOperand s family ["range", p, q] s!"range/{low}-{high}"
  | group {g : String} (defined : s.hasGroup .port g = true) :
      PortOperand s family ["object-group", g] g

inductive PortClause (s : Symbols) (family : PortFamily) : List String → String → Prop where
  | absent : PortClause s family [] Field.anyPort
  | given {tokens value} (operand : PortOperand s family tokens value) :
      PortClause s family tokens value

inductive IcmpName (version : IcmpVersion) : String → String → Prop where
  | number {t : String} (integer : Numeral.isInteger t = true) : IcmpName version t t
  | known {t : String} {n : Nat} (known : Icmp.typeNumber? version t = some n) :
      IcmpName version t (toString n)

/-- The end of an entry starts no port clause. -/
def EndsPorts (trail : List String) : Prop :=
  Port.isOperator (Clause.token trail) = false ∧ Clause.token trail ≠ "object-group"

/-- What follows the destination of messages. The end of the entry must not pass for what was left
out. -/
inductive IcmpClause (s : Symbols) (version : IcmpVersion) (trail : List String) :
    List String → String → Prop where
  | absent (noType : ∀ v, ¬ IcmpName version (Clause.token trail) v)
      (noGroup : Clause.token trail ≠ "object-group") : IcmpClause s version trail [] Field.anyIcmp
  | type {t v : String} (type : IcmpName version t v)
      (noCode : Numeral.isInteger (Clause.token trail) = false) :
      IcmpClause s version trail [t] s!"{v}/any"
  | code {t v c : String} (type : IcmpName version t v) (code : Numeral.isInteger c = true) :
      IcmpClause s version trail [t, c] s!"{v}/{c}"
  | group {g : String} (defined : s.hasGroup .icmpType g = true) :
      IcmpClause s version trail ["object-group", g] g

def portFamily (t : Traits) : PortFamily := if t.tcp then .tcp else .udp

def icmpVersion (t : Traits) : IcmpVersion := if t.icmp6 then .v6 else .v4

/-- The clauses after the source and after the destination, and the fields that they fill: the port of
the source, that of the destination, and the type and code of messages. -/
inductive Clauses (s : Symbols) (t : Traits) (trail : List String) :
    List String → List String → String → String → String → Prop where
  | none (closed : t.allowsPorts = false) :
      Clauses s t trail [] [] Field.notApplicable Field.notApplicable Field.notApplicable
  | ports {first second low high} (opened : t.allowsPorts = true) (ports : t.hasPorts = true)
      (source : PortClause s (portFamily t) first low)
      (destination : PortClause s (portFamily t) second high) (ends : second = [] → EndsPorts trail) :
      Clauses s t trail first second low high Field.notApplicable
  | icmp {tokens value} (opened : t.allowsPorts = true) (messages : t.isIcmp = true)
      (operand : IcmpClause s (icmpVersion t) trail tokens value) :
      Clauses s t trail [] tokens Field.notApplicable Field.notApplicable value

end Entry
end AccessList
