import AccessList.Flatten.Stage
import AccessList.Proofs.Entry.Clauses
import AccessList.Service

/-! Service definitions and their descriptors. No part of a descriptor has a slash in it, so that it is cut
into the parts that it was joined from, and a record gets the fields that the definition says. -/
namespace AccessList.Service

open Text Clause Entry

variable {s : Symbols} {r : Record} {p q t v operator ports : String} {family : PortFamily}
  {version : IcmpVersion} {tokens rest clauses first second : List String}

/-- An operator with its ports, which may be of any name without a slash. -/
inductive Condition : List String → Prop where
  | compare {operator p : String} (comparison : operator ∈ Port.comparisons) (given : p ≠ "")
      (noSlash : '/' ∉ p.toList) : Condition [operator, p]
  | range {p q : String} (givenLow : p ≠ "") (givenHigh : q ≠ "") (noSlashLow : '/' ∉ p.toList)
      (noSlashHigh : '/' ∉ q.toList) : Condition ["range", p, q]

inductive Message (version : IcmpVersion) : List String → Prop where
  | any : Message version []
  | type {t v : String} (name : IcmpName version t v) : Message version [t]
  | code {t v c : String} (name : IcmpName version t v) (integer : Numeral.isInteger c = true) :
      Message version [t, c]

def sideClause (keyword : String) (condition : List String) : List String :=
  if condition = [] then [] else keyword :: condition

/-- What follows the protocol of a definition, and the clauses by which an entry says the same after its
source and after its destination. -/
inductive Definition : String → List String → List String → List String → Prop where
  | ports {p : String} {first second : List String} (transport : p = "6" ∨ p = "17")
      (source : first = [] ∨ Condition first) (destination : second = [] ∨ Condition second) :
      Definition p (sideClause "source" first ++ sideClause "destination" second) first second
  | messages {p : String} {version : IcmpVersion} {second : List String}
      (messages : p = "1" ∧ version = .v4 ∨ p = "58" ∧ version = .v6) (message : Message version second) :
      Definition p second [] second
  | bare {p : String} (other : p ∉ ["1", "58", "6", "17"]) : Definition p [] [] []

theorem no_slash_integer (integer : Numeral.isInteger t = true) : '/' ∉ t.toList := by
  intro member
  have kept : ∀ cs : List Char, '/' ∈ cs → '/' ∈ (Numeral.splitSign cs).2 := by
    intro cs inside
    unfold Numeral.splitSign
    split <;> simp_all
  have digits : ((Numeral.splitSign t.toList).2.all isDecimal) = true := by
    simp only [Numeral.isInteger, Bool.and_eq_true] at integer
    exact integer.2
  have digit := List.all_eq_true.mp digits '/' (kept _ member)
  exact absurd digit (by decide)

theorem no_slash_number (n : Nat) : '/' ∉ (toString n).toList :=
  no_slash_integer (Numeral.isInteger_toString n)

theorem exists_portName (family : PortFamily) (given : p ≠ "") (noSlash : '/' ∉ p.toList) :
    ∃ v, PortName family p v ∧ '/' ∉ v.toList := by
  cases known : Port.number? p family with
  | some n => exact ⟨toString n, .known known, no_slash_number n⟩
  | none => exact ⟨p, .unknown given known, noSlash⟩

/-- What a side of a definition says: an operator and its ports, any port where it says nothing. -/
structure SideReading (family : PortFamily) (condition : List String) (operator ports : String) : Prop where
  noSlashOperator : '/' ∉ operator.toList
  noSlashPorts : '/' ∉ ports.toList
  clause : ∀ s, PortClause s family condition s!"{operator}/{ports}"
  read : condition ≠ [] → Port.isOperator (token condition) = true ∧
    ∀ rest, portCondition family (condition ++ rest) = pure ⟨s!"{operator}/{ports}", condition.length⟩
  length : condition ≠ [] →
    condition.length = if startsWith "range" s!"{operator}/{ports}" then 3 else 2

theorem range_joint (low high : String) : s!"range/{low}-{high}" = "range" ++ "/" ++ s!"{low}-{high}" := by
  change "range/" ++ low ++ "-" ++ high = "range" ++ "/" ++ (low ++ "-" ++ high)
  rw [← String.toList_inj]
  simp

theorem startsWith_range (v : String) : startsWith "range" ("range" ++ "/" ++ v) = true := by
  simp [startsWith]

theorem comparison_text (comparison : operator ∈ Port.comparisons) (v : String) :
    '/' ∉ operator.toList ∧ startsWith "range" (operator ++ "/" ++ v) = false := by
  simp only [Port.comparisons, List.mem_cons, List.not_mem_nil, or_false] at comparison
  rcases comparison with rfl | rfl | rfl | rfl <;> exact ⟨by decide, by simp [startsWith]; rfl⟩

theorem side_reading (family : PortFamily) {condition : List String}
    (side : condition = [] ∨ Condition condition) :
    ∃ operator ports, SideReading family condition operator ports := by
  rcases side with rfl | given
  · exact ⟨"eq", "any", by decide, by decide, fun s => .absent, by simp, by simp⟩
  cases given with
  | @compare operator p comparison given noSlash =>
    obtain ⟨v, port, noSlashValue⟩ := exists_portName family given noSlash
    obtain ⟨noSlashOperator, noRange⟩ := comparison_text comparison v
    refine ⟨operator, v, noSlashOperator, noSlashValue, fun s => .given (.compare comparison port),
      fun _ => ⟨by simp [Port.isOperator, comparison], fun rest => portCondition_compare comparison port⟩,
      fun _ => ?_⟩
    have text : startsWith "range" s!"{operator}/{v}" = false := noRange
    rw [text]
    rfl
  | @range p q givenLow givenHigh noSlashLow noSlashHigh =>
    obtain ⟨low, first, noSlashFirst⟩ := exists_portName family givenLow noSlashLow
    obtain ⟨high, last, noSlashLast⟩ := exists_portName family givenHigh noSlashHigh
    have noSlash : '/' ∉ s!"{low}-{high}".toList := by
      intro member
      rcases (mem_join rfl).mp member with inside | dash | inside
      · exact noSlashFirst inside
      · exact absurd dash (by decide)
      · exact noSlashLast inside
    refine ⟨"range", s!"{low}-{high}", by decide, noSlash, fun s => .given ?_,
      fun _ => ⟨rfl, fun rest => ?_⟩, fun _ => ?_⟩
    · exact range_joint low high ▸ .range first last
    · exact range_joint low high ▸ portCondition_range first last
    · have text : startsWith "range" ("range" ++ "/" ++ s!"{low}-{high}") = true := startsWith_range _
      exact (if_pos text).symm

theorem side_clause {condition : List String} {keyword : String} (given : condition ≠ [])
    (reading : SideReading family condition operator ports) :
    side keyword family (keyword :: (condition ++ rest)) = pure (some s!"{operator}/{ports}") := by
  obtain ⟨head, read⟩ := reading.read given
  have first : token (condition ++ rest) = token condition := by
    cases condition with
    | nil => exact absurd rfl given
    | cons => rfl
  simp [side, first, head, read]

theorem side_other {keyword other : String} (differ : other ≠ keyword) :
    side keyword family (other :: rest) = pure none := by
  simp [side, differ]

theorem portClause_nil {value : String} (clause : PortClause s family [] value) : value = Field.anyPort := by
  cases clause with
  | absent => rfl
  | given operand => cases operand

theorem SideReading.length_le {condition : List String} (given : condition ≠ [])
    (reading : SideReading family condition operator ports) :
    2 ≤ condition.length ∧ condition.length ≤ 3 := by
  have length := reading.length given
  split at length <;> omega

theorem sides_value {low high lowPorts highPorts : String} (source : SideReading family first low lowPorts)
    (destination : SideReading family second high highPorts) :
    (sides family (sideClause "source" first ++ sideClause "destination" second)).value =
      (s!"{low}/{lowPorts}", s!"{high}/{highPorts}") := by
  by_cases noSource : first = []
  · subst noSource
    have any : s!"{low}/{lowPorts}" = Field.anyPort := portClause_nil (source.clause {})
    by_cases noDestination : second = []
    · subst noDestination
      rw [any, portClause_nil (destination.clause {})]
      rfl
    · have few : ¬ 5 ≤ second.length := by
        have bounds := destination.length_le noDestination
        omega
      have read : side "destination" family ("destination" :: second) = pure (some s!"{high}/{highPorts}") := by
        rw [← List.append_nil second]
        exact side_clause noDestination destination
      rw [any]
      simp [sideClause, noDestination, sides, few, side_other, read, orComplain]
  · have bounds := source.length_le noSource
    by_cases noDestination : second = []
    · subst noDestination
      have few : ¬ 5 ≤ first.length := by omega
      have read : side "source" family ("source" :: first) = pure (some s!"{low}/{lowPorts}") := by
        rw [← List.append_nil first]
        exact side_clause noSource source
      rw [portClause_nil (destination.clause {})]
      simp [sideClause, noSource, sides, few, read]
    · have many : 5 ≤ first.length + (second.length + 1) := by
        have more := destination.length_le noDestination
        omega
      have read : side "source" family ("source" :: (first ++ "destination" :: second)) =
          pure (some s!"{low}/{lowPorts}") := side_clause noSource source
      have readLater : side "destination" family ("destination" :: second) =
          pure (some s!"{high}/{highPorts}") := by
        rw [← List.append_nil second]
        exact side_clause noDestination destination
      have after : (if startsWith "range" s!"{low}/{lowPorts}" then 4 else 3) = first.length + 1 := by
        rw [source.length noSource]
        split <;> rfl
      simp [sideClause, noSource, noDestination, sides, many, read, readLater, after, orComplain]

theorem icmpName_given (name : IcmpName version t v) : t ≠ "" := by
  cases name with
  | number integer => exact ne_empty_of_isInteger integer
  | known known => exact (icmp_names version _ (mem_of_lookup known)).1

theorem no_slash_icmpName (name : IcmpName version t v) : '/' ∉ v.toList := by
  cases name with
  | number integer => exact no_slash_integer integer
  | known => exact no_slash_number _

theorem any_joint (v : String) : s!"{v}/any" = v ++ "/" ++ "any" := by
  change v ++ "/any" = v ++ "/" ++ "any"
  rw [← String.toList_inj]
  simp

theorem message_reading (message : Message version tokens) :
    ∃ type code : String, '/' ∉ type.toList ∧ '/' ∉ code.toList ∧
      (icmp version tokens).value = s!"{type}/{code}" ∧
      ∀ s, IcmpClause s version [] tokens s!"{type}/{code}" := by
  cases message with
  | any =>
    have noType (v : String) : ¬ IcmpName version (token []) v := fun name => icmpName_given name rfl
    exact ⟨"any", "any", by decide, by decide, by cases version <;> rfl, fun s => .absent noType (by decide)⟩
  | @type t v name =>
    obtain ⟨read, _⟩ := icmp_name name []
    have noCode : Numeral.isInteger (token []) = false := by decide
    have value : (icmp version [t]).value = s!"{v}/any" := by simp [icmp, read, noCode]
    refine ⟨v, "any", no_slash_icmpName name, by decide, value.trans (any_joint v), fun s => ?_⟩
    exact any_joint v ▸ .type name noCode
  | @code t v c name integer =>
    obtain ⟨read, _⟩ := icmp_name name [c]
    exact ⟨v, c, no_slash_icmpName name, no_slash_integer integer, by simp [icmp, read, integer],
      fun s => .code name integer⟩

theorem protocol_written (protocol : ProtocolOperand s [t] p) :
    (t ≠ "" ∧ t ≠ "object" ∧ t ≠ "object-group") ∧
      (if Numeral.isInteger t then t else Protocol.canonical t) = p ∧ p ≠ "" ∧ '/' ∉ p.toList := by
  cases protocol with
  | ip free => decide
  | name known free =>
    obtain ⟨word, letters, canonical, _⟩ := protocol_names _ known
    exact ⟨word, by rw [if_neg (by simp [letters]), canonical], (number_word _).1, no_slash_number _⟩
  | number bound free =>
    exact ⟨number_word _, if_pos (Numeral.isInteger_toString _), (number_word _).1, no_slash_number _⟩

theorem protocol_read (protocol : ProtocolOperand s [t] p) :
    Clause.protocol (t :: rest) = pure ⟨p, 1⟩ := by
  obtain ⟨⟨given, _⟩, value, _⟩ := protocol_written protocol
  rw [← value]
  by_cases integer : Numeral.isInteger t = true <;> simp [Clause.protocol, given, integer]

theorem withService_ports (r : Record) {p low lowPorts high highPorts : String}
    (noSlash : ∀ part ∈ [p, low, lowPorts, high, highPorts], '/' ∉ part.toList) :
    r.withService (p ++ "/" ++ (low ++ "/" ++ lowPorts) ++ "/" ++ (high ++ "/" ++ highPorts)) =
      { r with
        protocol := p
        sourcePort := low ++ "/" ++ lowPorts
        destinationPort := high ++ "/" ++ highPorts } := by
  have joined : p ++ "/" ++ (low ++ "/" ++ lowPorts) ++ "/" ++ (high ++ "/" ++ highPorts) =
      "/".intercalate [p, low, lowPorts, high, highPorts] := by
    simp [String.append_assoc]
  rw [Record.withService, joined, fields_join rfl noSlash (by simp)]
  rfl

theorem withService_message (r : Record) {p type code : String}
    (noSlash : ∀ part ∈ [p, type, code], '/' ∉ part.toList) :
    r.withService (p ++ "/" ++ (type ++ "/" ++ code)) =
      { r with protocol := p, icmp := type ++ "/" ++ code } := by
  have joined : p ++ "/" ++ (type ++ "/" ++ code) = "/".intercalate [p, type, code] := by
    simp [String.append_assoc]
  rw [Record.withService, joined, fields_join rfl noSlash (by simp)]
  rfl

theorem withService_protocol (r : Record) (noSlash : '/' ∉ p.toList) :
    r.withService p = { r with protocol := p } := by
  rw [Record.withService, fields_eq_singleton noSlash]

theorem supported_closed : ∀ e ∈ Traits.supported, Numeral.isInteger e.1 = true →
    e.1 ∉ ["1", "58", "6", "17"] → e.2.allowsPorts = false := by
  decide

theorem number_closed {n : Nat} (other : toString n ∉ ["1", "58", "6", "17"]) :
    ((Traits.supported.lookup (toString n)).getD { unsupported := true }).allowsPorts = false := by
  cases found : Traits.supported.lookup (toString n) with
  | some t => exact supported_closed _ (mem_of_lookup found) (Numeral.isInteger_toString n) other
  | none => rfl

theorem unaliased (protocol : ProtocolOperand s [t] p) : s.Unaliased p := by
  cases protocol with
  | ip free | name known free | number bound free => exact free

theorem allowsPorts_bare (protocol : ProtocolOperand s [t] p) (other : p ∉ ["1", "58", "6", "17"]) :
    (s.traits p).allowsPorts = false := by
  rw [traits_unaliased (unaliased protocol)]
  have numbered {n : Nat} (bound : n < 256) (other : toString n ∉ ["1", "58", "6", "17"]) :
      ((Traits.supported.lookup (toString n)).getD
        (if Protocol.isNumber (toString n) then { unsupported := true } else Traits.none)).allowsPorts =
        false := by
    rw [if_pos (isNumber_of_lt bound)]
    exact number_closed other
  cases protocol with
  | ip free => decide
  | name known free => exact numbered (protocol_names _ known).2.2.2 other
  | number bound free => exact numbered bound other

/-- The descriptor of transport definitions, where any port stands for a side that is not said. -/
theorem describe_ports {family : PortFamily} {low high : String} (given : t ≠ "")
    (read : Clause.protocol (t :: clauses) = pure ⟨p, 1⟩)
    (transport : p = "6" ∧ family = .tcp ∨ p = "17" ∧ family = .udp)
    (value : (sides family clauses).value = (low, high)) :
    (describe (t :: clauses)).value = s!"{p}/{low}/{high}" := by
  rcases transport with ⟨rfl, rfl⟩ | ⟨rfl, rfl⟩ <;> simp [describe, given, read, value]

theorem describe_message (given : t ≠ "") (read : Clause.protocol (t :: clauses) = pure ⟨p, 1⟩)
    (messages : p = "1" ∧ version = .v4 ∨ p = "58" ∧ version = .v6) :
    (describe (t :: clauses)).value = p ++ "/" ++ (icmp version clauses).value := by
  rcases messages with ⟨rfl, rfl⟩ | ⟨rfl, rfl⟩
  all_goals
    simp [describe, given, read]
    rfl

theorem describe_bare (given : t ≠ "") (read : Clause.protocol [t] = pure ⟨p, 1⟩)
    (other : p ∉ ["1", "58", "6", "17"]) : (describe [t]).value = p := by
  simp only [List.mem_cons, List.not_mem_nil, or_false, not_or] at other
  simp [describe, given, read, other]

/-- The descriptor of a definition gives a record the fields of the entry that says the same. -/
theorem Definition.meaning (definition : Definition p clauses first second)
    (protocol : ProtocolOperand s [t] p) :
    ∃ low high icmp, Clauses s (s.traits p) [] first second low high icmp ∧
      ((describe (t :: clauses)).value ≠ "") ∧
      ∀ r : Record, r.withoutClauses.withService (describe (t :: clauses)).value =
        { r with protocol := p, sourcePort := low, destinationPort := high, icmp := icmp } := by
  obtain ⟨⟨given, _⟩, _, written, noSlash⟩ := protocol_written protocol
  have traits := traits_unaliased (unaliased protocol)
  cases definition with
  | @ports _ _ transport source destination =>
    have family : ∃ family, (p = "6" ∧ family = .tcp ∨ p = "17" ∧ family = .udp) ∧
        (s.traits p).allowsPorts = true ∧ (s.traits p).hasPorts = true ∧
        portFamily (s.traits p) = family := by
      rw [traits]
      rcases transport with rfl | rfl
      · exact ⟨.tcp, by decide⟩
      · exact ⟨.udp, by decide⟩
    obtain ⟨family, transport, opened, ports, same⟩ := family
    obtain ⟨low, lowPorts, readSource⟩ := side_reading family source
    obtain ⟨high, highPorts, readDestination⟩ := side_reading family destination
    have value := describe_ports given (protocol_read protocol) transport
      (sides_value readSource readDestination)
    have parts : ∀ part ∈ [p, low, lowPorts, high, highPorts], '/' ∉ part.toList := by
      simp [noSlash, readSource.noSlashOperator, readSource.noSlashPorts,
        readDestination.noSlashOperator, readDestination.noSlashPorts]
    refine ⟨s!"{low}/{lowPorts}", s!"{high}/{highPorts}", Field.notApplicable,
      .ports opened ports (same ▸ readSource.clause s) (same ▸ readDestination.clause s)
        fun _ => ⟨by decide, by decide⟩, ?_, fun r => ?_⟩
    · rw [value]
      change p ++ "/" ++ _ ++ "/" ++ _ ≠ ""
      simp [written]
    · rw [value]
      exact withService_ports _ parts
  | @messages version _ messages message =>
    obtain ⟨type, code, noSlashType, noSlashCode, value, clause⟩ := message_reading message
    have opened : (s.traits p).allowsPorts = true ∧ (s.traits p).isIcmp = true ∧
        icmpVersion (s.traits p) = version := by
      rw [traits]
      rcases messages with ⟨rfl, rfl⟩ | ⟨rfl, rfl⟩ <;> decide
    obtain ⟨opened, isIcmp, same⟩ := opened
    have read : Clause.protocol (t :: clauses) = pure ⟨p, 1⟩ := protocol_read protocol
    have whole := describe_message given read messages
    have parts : ∀ part ∈ [p, type, code], '/' ∉ part.toList := by
      simp [noSlash, noSlashType, noSlashCode]
    refine ⟨Field.notApplicable, Field.notApplicable, s!"{type}/{code}",
      .icmp opened isIcmp (same ▸ clause s), ?_, fun r => ?_⟩
    · rw [whole]
      simp [written]
    · rw [whole, value]
      exact withService_message _ parts
  | bare other =>
    have value := describe_bare given (protocol_read protocol) other
    refine ⟨Field.notApplicable, Field.notApplicable, Field.notApplicable,
      .none (allowsPorts_bare protocol other), ?_, fun r => ?_⟩
    · rwa [value]
    · rw [value, withService_protocol _ noSlash]
      rfl

end AccessList.Service
