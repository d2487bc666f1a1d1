import AccessList.Config.Section
import AccessList.Service
import AccessList.Symbols

/-! Object sections. The value of a network object is an address text, that of a service object a
service descriptor; the last line of a section that has one gives it. -/
namespace AccessList.Config

open Clause Text

/-- The value that a body line gives to a network object. A line with another keyword stands for that
keyword; a line of `nat` has no address of its own. -/
def networkValue (tokens : List String) : String :=
  let operand := token (tokens.drop 1)
  let second := token (tokens.drop 2)
  match tokens with
  | [] => ""
  | "host" :: _ => if operand.isEmpty then Field.undefined else (Address.host? operand).getD ""
  | "subnet" :: _ =>
    if operand.isEmpty then Field.undefined
    else if has ':' operand then (Address.beforeSlash Address.full? operand).getD ""
    else if second.isEmpty then Field.undefined
    else (Address.withNetmask? operand second).getD ""
  | "range" :: _ =>
    if operand.isEmpty || second.isEmpty then Field.undefined
    else if has ':' operand then
      (Address.full? operand).getD "" ++ "-" ++ (Address.full? second).getD ""
    else s!"{operand}-{second}"
  | "fqdn" :: _ =>
    if operand = "v4" || operand = "v6" then Field.orUndefined second else Field.orUndefined operand
  | "nat" :: _ => Field.undefined
  | keyword :: _ => keyword

def objectLine (s : Symbols) : SectionLine → Noted Notice Symbols
  | .unnamed line => ⟨s, [.unnamedSection "object" line]⟩
  | .header h =>
    if h.kind = "network" || h.kind = "service" then pure s
    else ⟨s, [.unknownObjectKind h.tokens]⟩
  | .body h tokens =>
    if token tokens = "description" then pure s
    else match h.kind with
      | "network" => pure { s with networkObjects := s.networkObjects.insert h.symbol (networkValue tokens) }
      | "service" =>
        if token tokens = "service" then do
          let value ← within tokens (Service.describe (tokens.drop 1))
          return { s with serviceObjects := s.serviceObjects.insert h.symbol value }
        else ⟨s, [.serviceObjectKeyword tokens]⟩
      | _ => pure s

def objects (s : Symbols) (lines : List String) : Noted Notice Symbols :=
  Noted.sweep objectLine s (sections "object" lines)

end AccessList.Config
