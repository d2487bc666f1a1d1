import AccessList.Proofs.Entry.Operands

/-! Clauses after the addresses of an entry. A clause that is there is read whole, and one that is not
leaves all tokens to what comes next. -/
namespace AccessList.Entry

open Clause

variable {s : Symbols} {line tokens rest trail : List String} {value : String}
  {family : PortFamily} {version : IcmpVersion}

theorem port_names : ∀ e ∈ Port.tcpNames ++ Port.udpNames,
    e.1 ≠ "" ∧ Numeral.isInteger e.1 = false := by
  decide +kernel

theorem mem_of_number? {p : String} {n : Nat} (known : Port.number? p family = some n) :
    (p, n) ∈ Port.tcpNames ++ Port.udpNames := by
  rw [List.mem_append]
  cases family with
  | tcp => exact .inl (mem_of_lookup known)
  | udp | unknown => exact .inr (mem_of_lookup known)
  | tcpUdp =>
    simp only [Port.number?] at known
    split at known
    · exact .inr (mem_of_lookup known)
    · cases known

theorem ne_empty_of_isInteger {p : String} (integer : Numeral.isInteger p = true) : p ≠ "" := by
  rintro rfl
  cases integer

theorem port_name {p v : String} (name : PortName family p v) (rest : List String) :
    Clause.port family (p :: rest) = pure ⟨v, 1⟩ ∧ v ≠ "" := by
  cases name with
  | number integer =>
    have given := ne_empty_of_isInteger integer
    exact ⟨by simp [Clause.port, given, integer], given⟩
  | @known n known =>
    obtain ⟨given, letters⟩ := port_names _ (mem_of_number? known)
    have written : toString n ≠ "" := by simp
    exact ⟨by simp [Clause.port, given, letters, known], written⟩
  | unknown given unknown =>
    have value : ((Port.number? p family).map toString).getD p = p := by simp [unknown]
    exact ⟨by by_cases integer : Numeral.isInteger p = true <;>
      simp [Clause.port, given, integer, unknown], given⟩

theorem portCondition_compare {operator p v : String} (comparison : operator ∈ Port.comparisons)
    (port : PortName family p v) :
    portCondition family (operator :: p :: rest) = pure ⟨s!"{operator}/{v}", 2⟩ := by
  obtain ⟨single, written⟩ := port_name port rest
  simp [portCondition, comparison, single, Field.orUndefined, written]

theorem portCondition_range {p q low high : String} (first : PortName family p low)
    (last : PortName family q high) :
    portCondition family ("range" :: p :: q :: rest) = pure ⟨s!"range/{low}-{high}", 3⟩ := by
  obtain ⟨lower, _⟩ := port_name first (q :: rest)
  obtain ⟨upper, writtenHigh⟩ := port_name last rest
  simp [portCondition, Port.comparisons, lower, upper, Field.orUndefined, writtenHigh]

theorem portOrGroup_operator {operator : String} {c : Clause} (notGroup : operator ≠ "object-group")
    (given : operator ≠ "") (condition : portCondition family (operator :: rest) = pure c)
    (some : c.taken ≠ 0) : port s family line (operator :: rest) = pure c := by
  simp [port, portOrGroup, notGroup, given, condition, within, some]

theorem port_operand (operand : PortOperand s family tokens value) :
    port s family line (tokens ++ rest) = pure ⟨value, tokens.length⟩ := by
  cases operand with
  | @compare operator p v comparison name =>
    have word : operator ≠ "object-group" ∧ operator ≠ "" := by
      have all : ∀ o ∈ Port.comparisons, o ≠ "object-group" ∧ o ≠ "" := by decide
      exact all operator comparison
    exact portOrGroup_operator word.1 word.2 (portCondition_compare comparison name) (by simp)
  | range first last =>
    exact portOrGroup_operator (by decide) (by decide) (portCondition_range first last) (by simp)
  | group defined => simp [port, defined]

/-- There is no port clause before a token that is neither an operator nor a group other than one of
networks. -/
theorem port_absent (operator : Port.isOperator (token rest) = false)
    (network : token rest = "object-group" → s.hasGroup .port (token (rest.drop 1)) = false ∧
      s.hasGroup .network (token (rest.drop 1)) = true) :
    port s family line rest = pure ⟨Field.anyPort, 0⟩ := by
  have notComparison : token rest ∉ Port.comparisons := by simp_all [Port.isOperator]
  have notRange : token rest ≠ "range" := by simp_all [Port.isOperator]
  by_cases group : token rest = "object-group"
  · obtain ⟨noPorts, networks⟩ := network group
    rw [List.drop_one] at noPorts networks
    simp [port, portOrGroup, group, noPorts, networks]
  · simp [port, portOrGroup, group, portCondition, notComparison, notRange, within, absent]

theorem icmp_names : ∀ version, ∀ e ∈ Icmp.typeNames version,
    e.1 ≠ "" ∧ e.1 ≠ "object-group" ∧ Numeral.isInteger e.1 = false := by
  intro version
  cases version <;> decide

theorem icmp_name {t v : String} (name : IcmpName version t v) (rest : List String) :
    icmpType version (t :: rest) = ⟨v, 1⟩ ∧ t ≠ "object-group" := by
  cases name with
  | number integer =>
    refine ⟨by simp [icmpType, ne_empty_of_isInteger integer, integer], ?_⟩
    rintro rfl
    cases integer
  | known known =>
    obtain ⟨given, notGroup, letters⟩ := icmp_names version _ (mem_of_lookup known)
    exact ⟨by simp [icmpType, given, letters, known], notGroup⟩

theorem icmpType_absent (noType : ∀ v, ¬ IcmpName version (token rest) v) :
    icmpType version rest = absent := by
  have word : Numeral.isInteger (token rest) = false := by
    rw [← Bool.not_eq_true]
    exact fun integer => noType _ (.number integer)
  have unknown : Icmp.typeNumber? version (token rest) = none := by
    rw [Option.eq_none_iff_forall_ne_some]
    exact fun n known => noType _ (.known known)
  simp [icmpType, word, unknown]

theorem icmp_clause (clause : IcmpClause s version trail tokens value) :
    definedIcmp s version (tokens ++ trail) = ⟨value, tokens.length⟩ := by
  cases clause with
  | absent noType noGroup => simp [definedIcmp, icmpOrGroup, icmp, noGroup, icmpType_absent noType, absent]
  | type name noCode =>
    obtain ⟨read, noGroup⟩ := icmp_name name trail
    simp [definedIcmp, icmpOrGroup, icmp, noGroup, read, noCode]
  | @code t v c name code =>
    obtain ⟨read, noGroup⟩ := icmp_name name (c :: trail)
    simp [definedIcmp, icmpOrGroup, icmp, noGroup, read, code]
  | group defined => simp [definedIcmp, defined]

end AccessList.Entry
