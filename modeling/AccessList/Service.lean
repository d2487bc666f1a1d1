import AccessList.Clause

/-! Service descriptors. A service is a protocol alone, a protocol with an ICMP type and code, or a
protocol with a source and a destination port; its descriptor joins these parts by slashes. -/
namespace AccessList.Service

open Clause

def side (keyword : String) (family : PortFamily) (tokens : List String) :
    Noted Complaint (Option String) := do
  if token tokens = keyword && Port.isOperator (token (tokens.drop 1)) then
    return some (← portCondition family (tokens.drop 1)).value
  else return none

def orComplain (complaint : Complaint) : Option String → Noted Complaint String
  | some value => pure value
  | none => ⟨Field.anyPort, [complaint]⟩

/-- Six tokens are enough for both sides; with fewer there is one. Source comes first. -/
def sides (family : PortFamily) (tokens : List String) : Noted Complaint (String × String) := do
  if (token tokens).isEmpty then return (Field.anyPort, Field.anyPort)
  else if 6 ≤ tokens.length then
    let source ← orComplain .sourceOperator (← side "source" family tokens)
    let rest := tokens.drop (if Text.startsWith "range" source then 4 else 3)
    let destination ← orComplain .destinationOperator (← side "destination" family rest)
    return (source, destination)
  else
    match ← side "source" family tokens with
    | some source => return (source, Field.anyPort)
    | none =>
      let destination ← orComplain .serviceKeyword (← side "destination" family tokens)
      return (Field.anyPort, destination)

/-- The descriptor of a service definition, empty where there is none. -/
def describe (tokens : List String) : Noted Complaint String := do
  if (token tokens).isEmpty then return ""
  else
    let p ← protocol tokens
    let rest := tokens.drop p.taken
    let withPorts (family : PortFamily) : Noted Complaint String := do
      let (source, destination) ← sides family rest
      return s!"{p.value}/{source}/{destination}"
    match p.value with
    | "1" => return s!"1/{(icmp .v4 rest).value}"
    | "58" => return s!"58/{(icmp .v6 rest).value}"
    | "6" => withPorts .tcp
    | "17" => withPorts .udp
    | other => return other

example : describe ["tcp", "destination", "eq", "https"] = ⟨"6/eq/any/eq/443", []⟩ := by
  decide +kernel

end AccessList.Service
