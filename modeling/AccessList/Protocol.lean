import AccessList.Numeral

/-! Protocol names, and what an entry may say about traffic of a protocol: the traits of a protocol
decide which port and ICMP clauses follow its addresses. -/
namespace AccessList

namespace Protocol

/-- Protocol names and their numbers. The name of every protocol, `ip`, has no number. -/
def names : List (String × Nat) := [
  ("ah", 51), ("eigrp", 88), ("esp", 50), ("gre", 47), ("icmp", 1), ("icmp6", 58), ("igmp", 2),
  ("igrp", 9), ("ipinip", 4), ("ipsec", 50), ("nos", 94), ("ospf", 89), ("pcp", 108),
  ("pim", 103), ("pptp", 47), ("sctp", 132), ("snp", 109), ("tcp", 6), ("udp", 17)]

def canonical (token : String) : String := ((names.lookup token).map toString).getD token

end Protocol

/-- What is known of a protocol token. A group of protocols has the traits of all its members. -/
structure Traits where
  ip : Bool := false
  icmp : Bool := false
  icmp6 : Bool := false
  tcp : Bool := false
  udp : Bool := false
  unsupported : Bool := false
  service : Bool := false
  deriving DecidableEq, Repr

namespace Traits

def none : Traits := {}

def union (a b : Traits) : Traits where
  ip := a.ip || b.ip
  icmp := a.icmp || b.icmp
  icmp6 := a.icmp6 || b.icmp6
  tcp := a.tcp || b.tcp
  udp := a.udp || b.udp
  unsupported := a.unsupported || b.unsupported
  service := a.service || b.service

def code (t : Traits) : Nat :=
  let bit (b : Bool) (k : Nat) := if b then 1 <<< k else 0
  bit t.ip 0 + bit t.icmp 1 + bit t.icmp6 2 + bit t.tcp 3 + bit t.udp 4 + bit t.unsupported 12 +
    bit t.service 13

def ofCode (n : Int) : Traits :=
  let bit (k : Nat) : Bool := n / (1 <<< k : Nat) % 2 = 1
  { ip := bit 0, icmp := bit 1, icmp6 := bit 2, tcp := bit 3, udp := bit 4, unsupported := bit 12,
    service := bit 13 }

/-- The protocols whose clauses are read, by name and by number. -/
def supported : List (String × Traits) := [
  ("ip", { ip := true }), ("icmp", { icmp := true }), ("icmp6", { icmp6 := true }),
  ("1", { icmp := true }), ("58", { icmp6 := true }), ("tcp", { tcp := true }),
  ("udp", { udp := true }), ("6", { tcp := true }), ("17", { udp := true })]

def ofProtocol (token : String) : Traits :=
  (supported.lookup token).getD
    (if Numeral.isInteger token || (Protocol.names.lookup token).isSome then { unsupported := true }
    else none)

def isIcmp (t : Traits) : Bool := t.icmp || t.icmp6

def hasPorts (t : Traits) : Bool := t.tcp || t.udp

/-- No clauses follow the addresses of `ip`, of an unsupported protocol and of a group that mixes
messages with ports. -/
def allowsPorts (t : Traits) : Bool := !(t.ip || t.unsupported || (t.isIcmp && t.hasPorts))

end Traits
end AccessList
