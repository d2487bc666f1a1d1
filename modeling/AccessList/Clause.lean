import AccessList.Address.Cidr
import AccessList.Field
import AccessList.Icmp
import AccessList.Noted
import AccessList.Notice
import AccessList.Port
import AccessList.Protocol
import AccessList.Table

/-! Clauses of a configuration line. A clause is read from the head of the tokens that are left; it
has a canonical value and takes some of the tokens. One that takes none is not there, and its
caller decides what that means. -/
namespace AccessList

open Text

structure Name where
  address : String
  description : String := ""
  deriving DecidableEq, Repr

structure Clause where
  value : String
  taken : Nat
  deriving DecidableEq, Repr

namespace Clause

def absent : Clause := ⟨"", 0⟩

def valueOr (c : Clause) (otherwise : String) : String := if c.taken = 0 then otherwise else c.value

/-- The token at the head of a line's rest; an empty one counts as missing. -/
def token (tokens : List String) : String := tokens.headD ""

@[simp] theorem token_cons (t : String) (tokens : List String) : token (t :: tokens) = t := rfl

/-- A protocol is required, so that an unknown name is taken as it is. -/
def protocol (tokens : List String) : Noted Complaint Clause :=
  let t := token tokens
  if t.isEmpty then ⟨absent, [.noProtocol]⟩
  else if Numeral.isInteger t then pure ⟨t, 1⟩
  else pure ⟨Protocol.canonical t, 1⟩

/-- An unknown name may be the next clause of the line and is left. -/
def icmpType (version : IcmpVersion) (tokens : List String) : Clause :=
  let t := token tokens
  if t.isEmpty then absent
  else if Numeral.isInteger t then ⟨t, 1⟩
  else match Icmp.typeNumber? version t with
    | some n => ⟨toString n, 1⟩
    | none => absent

def icmp (version : IcmpVersion) (tokens : List String) : Clause :=
  let type := icmpType version tokens
  if type.taken = 0 then ⟨Field.anyIcmp, 0⟩
  else
    let code := token (tokens.drop type.taken)
    if Numeral.isInteger code then ⟨s!"{type.value}/{code}", type.taken + 1⟩
    else ⟨s!"{type.value}/any", type.taken⟩

def port (family : PortFamily) (tokens : List String) : Noted Complaint Clause :=
  let t := token tokens
  if t.isEmpty then ⟨absent, [.noPort]⟩
  else if Numeral.isInteger t then pure ⟨t, 1⟩
  else pure ⟨((Port.number? t family).map toString).getD t, 1⟩

/-- A comparison with one port or a range of two; what is missing of them is undefined. -/
def portCondition (family : PortFamily) (tokens : List String) : Noted Complaint Clause := do
  let operator := token tokens
  if Port.comparisons.contains operator then
    let p ← port family (tokens.drop 1)
    return ⟨s!"{operator}/{Field.orUndefined p.value}", 1 + p.taken⟩
  else if operator = "range" then
    let low ← port family (tokens.drop 1)
    if low.taken = 0 then return ⟨s!"range/{Field.undefined}-{Field.undefined}", 1⟩
    else
      let high ← port family (tokens.drop (1 + low.taken))
      return ⟨s!"range/{low.value}-{Field.orUndefined high.value}", 1 + low.taken + high.taken⟩
  else return absent

/-- An address and its netmask. The address may be a name; the netmask may not. -/
def maskedAddress (names : Table Name) (tokens : List String) : String :=
  let t := token tokens
  let address := ((names.get? t).map Name.address).getD t
  let netmask := token (tokens.drop 1)
  if netmask.isEmpty then Field.undefined else (Address.withNetmask? address netmask).getD ""

/-- An address with a prefix length, of which the part before the slash may be a name. -/
def slashedAddress (names : Table Name) (t : String) : String :=
  let (host, length) := (cut '/' t).getD (t, "")
  match names.get? host with
  | some name => s!"{name.address}/{length}"
  | none => (Address.beforeSlash Address.full? t).getD ""

def host (names : Table Name) (t : String) : String :=
  match names.get? t with
  | some name => if has ':' name.address then s!"{name.address}/128" else s!"{name.address}/32"
  | none => (Address.host? t).getD ""

def address (names : Table Name) (tokens : List String) : Clause :=
  let t := token tokens
  if t.isEmpty then absent
  else if t = "host" then ⟨host names (token (tokens.drop 1)), 2⟩
  else if t = "any" then ⟨Field.anyAddress, 1⟩
  else if t = "any4" then ⟨Field.anyAddress4, 1⟩
  else if t = "any6" then ⟨Field.anyAddress6, 1⟩
  else if has '/' t then ⟨slashedAddress names t, 1⟩
  else ⟨maskedAddress names tokens, 2⟩

/-- The address operand of a group member. A token that stands alone is a domain name. -/
def memberAddress (names : Table Name) (tokens : List String) : Clause :=
  let t := token tokens
  if t.isEmpty then absent
  else if t = "host" then ⟨host names (token (tokens.drop 1)), 2⟩
  else if has '/' t then ⟨slashedAddress names t, 1⟩
  else if (token (tokens.drop 1)).isEmpty then ⟨t, 1⟩
  else ⟨maskedAddress names tokens, 2⟩

/-- A clause as part of a line, which its complaints quote. -/
def within {α : Type} (line : List String) (x : Noted Complaint α) : Noted Notice α :=
  x.mapNotes (.clause · line)

end Clause
end AccessList
