/-! Names of ICMP message types, in the two versions of the protocol. -/
namespace AccessList

inductive IcmpVersion where
  | v4
  | v6
  deriving DecidableEq, Repr

namespace Icmp

def typeNames : IcmpVersion → List (String × Nat)
  | .v4 => [
    ("alternate-address", 6), ("conversion-error", 31), ("echo", 8), ("echo-reply", 0),
    ("information-reply", 16), ("information-request", 15), ("mask-reply", 18),
    ("mask-request", 17), ("mobile-redirect", 32), ("parameter-problem", 12), ("redirect", 5),
    ("router-advertisement", 9), ("router-solicitation", 10), ("source-quench", 4),
    ("time-exceeded", 11), ("timestamp-reply", 14), ("timestamp-request", 13), ("traceroute", 30),
    ("unreachable", 3)]
  | .v6 => [
    ("echo", 128), ("echo-reply", 129), ("membership-query", 130), ("membership-reduction", 132),
    ("membership-report", 131), ("neighbor-advertisement", 136), ("neighbor-redirect", 137),
    ("neighbor-solicitation", 135), ("packet-too-big", 2), ("parameter-problem", 4),
    ("router-advertisement", 134), ("router-renumbering", 138), ("router-solicitation", 133),
    ("time-exceeded", 3), ("unreachable", 1)]

def typeNumber? (version : IcmpVersion) (name : String) : Option Nat :=
  (typeNames version).lookup name

end Icmp
end AccessList
