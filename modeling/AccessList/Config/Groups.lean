import AccessList.Config.Section
import AccessList.Service
import AccessList.Symbols

/-! Group sections. A body line adds one member, or the members that another group has so far. A group
that nothing defines yet is referred to by its alias. -/
namespace AccessList.Config

open Clause

/-- What the header of a group section declares. Some groups are known and not evaluated. -/
inductive GroupSort where
  | network
  | service
  | port (family : PortFamily)
  | protocol
  | icmpType
  | other
  deriving DecidableEq, Repr

/-- A service group with a transport protocol in its header is a group of ports. -/
def groupSort? (h : Header) : Option GroupSort :=
  match h.kind with
  | "network" => some .network
  | "service" =>
    match h.rest with
    | [] => some .service
    | "tcp" :: _ => some (.port .tcp)
    | "tcp-udp" :: _ => some (.port .tcpUdp)
    | _ => some (.port .udp)
  | "protocol" => some .protocol
  | "icmp-type" => some .icmpType
  | "security" | "user" => some .other
  | _ => none

def GroupSort.kind? : GroupSort → Option GroupKind
  | network => some .network
  | service => some .service
  | port _ => some .port
  | protocol => some .protocol
  | icmpType => some .icmpType
  | other => none

def memberKeyword : GroupKind → String
  | .network => "network-object"
  | .service => "service-object"
  | .port => "port-object"
  | .protocol => "protocol-object"
  | .icmpType => "icmp-object"

def kindName : GroupKind → String
  | .network => "network"
  | .service => "service"
  | .port => "port"
  | .protocol => "protocol"
  | .icmpType => "icmp-type"

def objectMember (s : Symbols) (kind : GroupKind) (tokens : List String) : String :=
  let ref := Field.orUndefined (token (tokens.drop 1))
  (s.object? kind ref).getD ref

def memberValues (s : Symbols) (sort : GroupSort) (line : List String) :
    Noted Notice (List String) := do
  let tokens := line.drop 1
  let literal := Field.orUndefined (token tokens)
  match sort with
  | .network =>
    if token tokens = "object" then return [objectMember s .network tokens]
    else return [valueOr (memberAddress s.names tokens) Field.undefined]
  | .service =>
    if token tokens = "tcp-udp" then
      let describe (p : String) :=
        within (line.take 1 ++ p :: tokens.drop 1) (Service.describe (p :: tokens.drop 1))
      return [← describe "tcp", ← describe "udp"]
    else if token tokens = "object" then return [objectMember s .service tokens]
    else return [Field.orUndefined (← within line (Service.describe tokens))]
  | .port family => return [valueOr (← within line (portCondition family tokens)) literal]
  | .protocol => return [valueOr (← within line (protocol tokens)) Field.undefined]
  | .icmpType => return [valueOr (icmpType .v4 tokens) literal]
  | .other => return []

def append (t : Table (List String)) (symbol : String) (members : List String) : Table (List String) :=
  t.insert symbol ((t.get? symbol).getD [] ++ members)

/-- The group exists from its first reference on, also where it refers to itself. -/
def appendGroup (t : Table (List String)) (symbol ref : String) : Table (List String) :=
  let t := append t symbol []
  append t symbol ((t.get? ref).getD [ref])

def groupLine (s : Symbols) : SectionLine → Noted Notice Symbols
  | .unnamed line => ⟨s, [.unnamedSection "object-group" line]⟩
  | .header h => if (groupSort? h).isSome then pure s else ⟨s, [.unknownGroupKind h.tokens]⟩
  | .body h tokens =>
    if token tokens = "description" then pure s
    else match groupSort? h with
      | none => pure s
      | some sort => match sort.kind? with
        | none => pure s
        | some kind =>
          if token tokens = memberKeyword kind then do
            let values ← memberValues s sort tokens
            return s.withGroups kind (append (s.groups kind) h.symbol values)
          else if token tokens = "group-object" then
            let ref := Field.orUndefined (token (tokens.drop 1))
            pure (s.withGroups kind (appendGroup (s.groups kind) h.symbol ref))
          else ⟨s, [.groupKeyword (kindName kind) tokens]⟩

def groups (s : Symbols) (lines : List String) : Noted Notice Symbols :=
  Noted.sweep groupLine s (sections "object-group" lines)

end AccessList.Config
