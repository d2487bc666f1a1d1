import AccessList.Proofs.Entry.Clauses

/-! Extended entries as a whole. The clauses that may follow the addresses are told by the traits of the
protocol, and the record has the values of all operands in their fields. -/
namespace AccessList.Entry

open Clause

variable {s : Symbols} {p value low high icmp : String}
  {line tokens rest trail first second : List String}

/-- No address starts as a port clause does, and a group there is one of networks. -/
theorem address_start (operand : AddressOperand s tokens value) (rest : List String) :
    Port.isOperator (token (tokens ++ rest)) = false ∧ (token (tokens ++ rest) = "object-group" →
      s.hasGroup .network (token ((tokens ++ rest).drop 1)) = true) := by
  cases operand with
  | any | any4 | any6 | host4 | host6 | object =>
    exact ⟨by simp [Port.isOperator, Port.comparisons], by simp⟩
  | @masked a m _ _ read =>
    obtain ⟨operator, group⟩ := start_of_not_keyword (not_keyword_of_read read)
    exact ⟨operator, fun same => absurd same group⟩
  | @sized a length _ read =>
    have slash : '/' ∈ s!"{a}/{length}".toList := Text.mem_join_self rfl
    obtain ⟨operator, group⟩ := start_of_not_keyword (not_keyword_of_slash slash)
    exact ⟨operator, fun same => absurd same group⟩
  | group defined => exact ⟨by simp [Port.isOperator, Port.comparisons], fun _ => defined⟩

theorem sourcePort_clause (distinct : s.Distinct)
    (clauses : Clauses s (s.traits p) trail first second low high icmp)
    (destination : AddressOperand s tokens value) :
    sourcePort s p line (first ++ (tokens ++ rest)) = pure ⟨low, first.length⟩ := by
  cases clauses with
  | none closed => simp [sourcePort, closed]
  | icmp opened messages operand => simp [sourcePort, messages]
  | ports opened ports source _ _ =>
    have noMessages := isIcmp_of_hasPorts opened ports
    have reads : sourcePort s p line (first ++ (tokens ++ rest)) =
        port s (portFamily (s.traits p)) line (first ++ (tokens ++ rest)) := by
      simp [sourcePort, opened, ports, noMessages, portFamily]
    rw [reads]
    cases source with
    | given operand => exact port_operand operand
    | absent =>
      -- What stands at the place of the clause is the destination.
      obtain ⟨operator, network⟩ := address_start destination rest
      refine port_absent operator fun group => ⟨?_, network group⟩
      rw [← Bool.not_eq_true]
      intro ports
      exact absurd (network group) (Bool.eq_false_iff.mp (distinct.ports _ ports))

theorem trailer_clause (clauses : Clauses s (s.traits p) trail first second low high icmp) :
    trailer s p line (second ++ trail) = pure ⟨high, icmp, second.length⟩ := by
  cases clauses with
  | none closed => simp [trailer, closed]
  | icmp opened messages operand =>
    have read := icmp_clause operand
    rw [icmpVersion] at read
    simp [trailer, opened, messages, read]
  | ports opened ports _ destination ends =>
    have noMessages := isIcmp_of_hasPorts opened ports
    have read : port s (portFamily (s.traits p)) line (second ++ trail) = pure ⟨high, second.length⟩ := by
      cases destination with
      | given operand => exact port_operand operand
      | absent => exact port_absent (ends rfl).1 fun group => absurd group (ends rfl).2
    rw [portFamily] at read
    simp [trailer, opened, ports, noMessages, read]

/-- An extended entry is read into the record of its operands, without a notice, and the traits of its
protocol tell which clauses it may have. -/
theorem extended_reads {protocol source destination : List String} {p a b : String} (distinct : s.Distinct)
    (protocolOperand : ProtocolOperand s protocol p) (sourceOperand : AddressOperand s source a)
    (destinationOperand : AddressOperand s destination b)
    (clauses : Clauses s (s.traits p) trail first second low high icmp) (name action : String)
    (number : Nat) :
    ((s.traits p).allowsPorts = false ∨ (s.traits p).hasPorts = true ∨ (s.traits p).isIcmp = true) ∧
    extended s (["access-list", name, "extended", action] ++
        (protocol ++ (source ++ (first ++ (destination ++ (second ++ trail)))))) number = pure {
      list := name
      line := number
      type := "extended"
      action := action
      protocol := p
      source := a
      sourcePort := low
      destination := b
      destinationPort := high
      icmp := icmp
      state := if "inactive" ∈ trail then "inactive" else "active" } := by
  refine ⟨(settled_operand distinct protocolOperand).clauses, ?_⟩
  have head (rest : List String) : ["access-list", name, "extended", action] ++ rest =
      "access-list" :: name :: "extended" :: action :: rest := rfl
  simp only [extended, head, List.drop_succ_cons, List.drop_zero, token_cons,
    protocol_operand protocolOperand, definedAddress_operand sourceOperand,
    definedAddress_operand destinationOperand, sourcePort_clause distinct clauses destinationOperand,
    trailer_clause clauses, Noted.pure_bind, List.drop_left, state, isInactive, List.contains_iff_mem]

/-- A range of source ports, and after the group of the destination a group of ports. -/
theorem extended_reads_groups :
    let s : Symbols := { networkGroups := ⟨[("servers", ["10.1.0.0/16"])]⟩
                         portGroups := ⟨[("web", ["eq/443"])]⟩ }
    s.Distinct ∧ ProtocolOperand s ["tcp"] "6" ∧ AddressOperand s ["host", "10.0.0.1"] "10.0.0.1/32" ∧
      AddressOperand s ["object-group", "servers"] "servers" ∧
      Clauses s (s.traits "6") ["log", "inactive"] ["range", "1024", "ftp"] ["object-group", "web"]
        "range/1024-21" "web" Field.notApplicable ∧
      extended s ["access-list", "inside", "extended", "permit", "tcp", "host", "10.0.0.1", "range", "1024",
          "ftp", "object-group", "servers", "object-group", "web", "log", "inactive"] 3 = pure {
        list := "inside"
        line := 3
        type := "extended"
        action := "permit"
        protocol := "6"
        source := "10.0.0.1/32"
        sourcePort := "range/1024-21"
        destination := "servers"
        destinationPort := "web"
        icmp := Field.notApplicable
        state := "inactive" } := by
  intro s
  have distinct : s.Distinct := by
    constructor
    · intro g defined
      obtain rfl : g = "web" := by
        simpa [s, Symbols.hasGroup, Symbols.groups, Table.contains, Table.get?] using defined
      decide
    · intro p defined
      simp [s, Symbols.hasGroup, Symbols.groups, Table.contains, Table.get?] at defined
  have protocol : ProtocolOperand s ["tcp"] "6" := .name (n := 6) (by decide) ⟨rfl, rfl, rfl⟩
  have source : AddressOperand s ["host", "10.0.0.1"] "10.0.0.1/32" := .host4 (a := "10.0.0.1")
    (by decide +kernel : Family.v4.read? "10.0.0.1" = some 0x0a000001#32) rfl
  have destination : AddressOperand s ["object-group", "servers"] "servers" := .group (by decide)
  have range : PortOperand s .tcp ["range", "1024", "ftp"] "range/1024-21" :=
    .range (.number (by decide)) (.known (n := 21) (by decide))
  have clauses : Clauses s (s.traits "6") ["log", "inactive"] ["range", "1024", "ftp"]
      ["object-group", "web"] "range/1024-21" "web" Field.notApplicable :=
    .ports (by decide) (by decide) (.given range) (.given (.group (by decide))) (by simp)
  refine ⟨distinct, protocol, source, destination, clauses, ?_⟩
  exact (extended_reads distinct protocol source destination clauses "inside" "permit" 3).2

end AccessList.Entry
