import AccessList.Proofs.Entry.Clauses

/-! Entries with operands of any spelling. The line around a clause shows in notices only, and an operand is
read the same whatever follows, so that entries with other operands at one place differ in one field. -/
namespace AccessList.Entry

open Text Clause

variable {s : Symbols} {line tokens rest : List String} {a t p : String}

/-- The tokens of an address in each of its forms, well-formed or not. Objects and groups are those that
are defined. -/
inductive Operand (s : Symbols) : List String → Prop where
  | everything {k : String} (any : k ∈ ["any", "any4", "any6"]) : Operand s [k]
  | host (a : String) : Operand s ["host", a]
  | unread {k : String} (a : String) (known : k ∈ unsupportedOperands) : Operand s [k, a]
  | masked {a : String} (m : String) (word : a ∉ addressWords) (given : a ≠ "")
      (noSlash : '/' ∉ a.toList) : Operand s [a, m]
  | sized {t : String} (slash : '/' ∈ t.toList) : Operand s [t]
  | object {o : String} (defined : (s.object? .network o).isSome = true) : Operand s ["object", o]
  | group {g : String} (defined : s.hasGroup .network g = true) : Operand s ["object-group", g]

/-- A reference that nothing defines, which is read as no address. -/
inductive Undefined (s : Symbols) : List String → Prop where
  | object {o : String} (undefined : (s.object? .network o).isSome = false) : Undefined s ["object", o]
  | group {g : String} (undefined : s.hasGroup .network g = false) : Undefined s ["object-group", g]

/-- What is read at the place of an address. -/
def addressClause (s : Symbols) (rest : List String) : Clause := (definedAddress s [] rest).value

def addressValue (s : Symbols) (tokens : List String) : String := (addressClause s tokens).value

theorem definedAddress_value : (definedAddress s line rest).value = addressClause s rest := by
  simp only [addressClause, definedAddress, address]
  split_ifs <;> rfl

theorem addressClause_literal (word : a ∉ addressWords) (given : a ≠ "") :
    addressClause s (a :: rest) =
      if has '/' a then ⟨slashedAddress s.names a, 1⟩ else ⟨maskedAddress s.names (a :: rest), 2⟩ := by
  rw [addressClause, definedAddress_literal [] rest word given]
  rfl

theorem ne_empty_of_slash (slash : '/' ∈ t.toList) : t ≠ "" := by
  rintro rfl
  cases slash

theorem addressClause_masked (m : String) (word : a ∉ addressWords) (given : a ≠ "")
    (noSlash : '/' ∉ a.toList) :
    addressClause s (a :: m :: rest) = ⟨maskedAddress s.names [a, m], 2⟩ := by
  have slash : has '/' a = false := by simpa [has] using noSlash
  rw [addressClause_literal word given, slash]
  rfl

theorem addressClause_sized (slash : '/' ∈ t.toList) :
    addressClause s (t :: rest) = ⟨slashedAddress s.names t, 1⟩ := by
  have word : t ∉ addressWords := fun member => not_keyword_of_slash slash (addressWord_keyword t member)
  rw [addressClause_literal word (ne_empty_of_slash slash), if_pos (has_iff.mpr slash)]

theorem addressClause_host (a : String) :
    addressClause s ("host" :: a :: rest) = ⟨Clause.host s.names a, 2⟩ := by
  simp [addressClause, definedAddress, address, unsupportedOperands, Clause.address]

theorem addressClause_operand (operand : Operand s tokens) :
    addressClause s (tokens ++ rest) = ⟨addressValue s tokens, tokens.length⟩ := by
  cases operand with
  | everything any =>
    simp only [List.mem_cons, List.not_mem_nil, or_false] at any
    rcases any with rfl | rfl | rfl <;>
      simp [addressValue, addressClause, definedAddress, address, unsupportedOperands, Clause.address]
  | host a => simp [addressValue, addressClause_host]
  | unread a known =>
    have words : ∀ k ∈ unsupportedOperands, k ≠ "" ∧ k ≠ "object" ∧ k ≠ "object-group" := by decide
    obtain ⟨given, object, group⟩ := words _ known
    simp [addressValue, addressClause, definedAddress, address, given, object, group, known]
  | @masked a m word given noSlash =>
    simp [addressValue, addressClause_masked m word given noSlash]
  | sized slash => simp [addressValue, addressClause_sized slash]
  | object defined => simp [addressValue, addressClause, definedAddress, defined]
  | group defined => simp [addressValue, addressClause, definedAddress, defined]

theorem addressClause_undefined (undefined : Undefined s tokens) :
    addressClause s (tokens ++ rest) = absent := by
  cases undefined with
  | object none => simp [addressClause, definedAddress, none]
  | group none => simp [addressClause, definedAddress, none]

/-- What names the protocol of an entry. A word stands for itself or for its number, whether or not
there is such a protocol. -/
inductive ProtocolClause (s : Symbols) : List String → String → Prop where
  | word {t : String} (plain : t ≠ "" ∧ t ≠ "object" ∧ t ≠ "object-group") :
      ProtocolClause s [t] (if Numeral.isInteger t then t else Protocol.canonical t)
  | group {g : String} (defined : s.hasGroup .protocol g = true ∨ s.hasGroup .service g = true) :
      ProtocolClause s ["object-group", g] g
  | object {o : String} (defined : (s.object? .service o).isSome = true) :
      ProtocolClause s ["object", o] o

theorem protocol_clause (clause : ProtocolClause s tokens p) :
    protocol s line (tokens ++ rest) = pure ⟨p, tokens.length⟩ := by
  cases clause with
  | word plain => exact protocol_word plain
  | group defined =>
    have either : (s.hasGroup .protocol p || s.hasGroup .service p) = true := by simpa using defined
    simp [protocol, either]
  | object defined => simp [protocol, defined]

def sourceClause (s : Symbols) (p : String) (rest : List String) : Clause := (sourcePort s p [] rest).value

def trailerClause (s : Symbols) (p : String) (rest : List String) : Trailer := (trailer s p [] rest).value

theorem port_value (family : PortFamily) (line : List String) :
    (port s family line rest).value = (port s family [] rest).value := by
  simp only [port, portOrGroup]
  split_ifs <;> rfl

theorem sourcePort_value : (sourcePort s p line rest).value = sourceClause s p rest := by
  simp only [sourceClause, sourcePort]
  split_ifs
  · rfl
  · exact port_value _ _
  · exact port_value _ _
  · rfl
  · rfl

theorem trailer_value : (trailer s p line rest).value = trailerClause s p rest := by
  simp only [trailerClause, trailer]
  split_ifs <;> simp [port_value _ line]

def withTrailer (s : Symbols) (head : Record) (rest : List String) : Record :=
  let t := trailerClause s head.protocol rest
  { head with destinationPort := t.port, icmp := t.icmp, state := state (rest.drop t.taken) }

def withDestination (s : Symbols) (head : Record) (rest : List String) : Record :=
  let port := sourceClause s head.protocol rest
  let rest := rest.drop port.taken
  let address := addressClause s rest
  withTrailer s { head with sourcePort := port.value, destination := address.value }
    (rest.drop address.taken)

def start (name action p : String) (number : Nat) (source : String) : Record where
  list := name
  line := number
  type := "extended"
  action := action
  protocol := p
  source := source

theorem extended_value {proto : List String} (clause : ProtocolClause s proto p) (name action : String)
    (number : Nat) (rest : List String) :
    let address := addressClause s rest
    (extended s (["access-list", name, "extended", action] ++ (proto ++ rest)) number).value =
      withDestination s (start name action p number address.value) (rest.drop address.taken) := by
  have head (rest : List String) : ["access-list", name, "extended", action] ++ rest =
      "access-list" :: name :: "extended" :: action :: rest := rfl
  simp only [extended, head, List.drop_succ_cons, List.drop_zero, token_cons, protocol_clause clause,
    Noted.value_bind, Noted.value_pure, Noted.pure_bind, definedAddress_value, sourcePort_value,
    trailer_value, List.drop_left]
  rfl

theorem extended_source {proto source : List String} (clause : ProtocolClause s proto p)
    (operand : Operand s source) (name action : String) (number : Nat) :
    (extended s (["access-list", name, "extended", action] ++ (proto ++ (source ++ rest))) number).value =
      withDestination s (start name action p number (addressValue s source)) rest := by
  rw [extended_value clause, addressClause_operand operand, List.drop_left]

theorem withDestination_operand {head : Record} {clause destination : List String} {low : String}
    (read : sourceClause s head.protocol (clause ++ (destination ++ rest)) = ⟨low, clause.length⟩)
    (operand : Operand s destination) :
    withDestination s head (clause ++ (destination ++ rest)) =
      withTrailer s { head with sourcePort := low, destination := addressValue s destination } rest := by
  simp only [withDestination, read, List.drop_left, addressClause_operand operand]

theorem extended_no_source {proto source : List String} (clause : ProtocolClause s proto p)
    (undefined : Undefined s source) (name action : String) (number : Nat) :
    (extended s (["access-list", name, "extended", action] ++
      (proto ++ (source ++ rest))) number).value.source = "" := by
  rw [extended_value clause, addressClause_undefined undefined]
  rfl

theorem withDestination_undefined {head : Record} {clause destination : List String} {low : String}
    (read : sourceClause s head.protocol (clause ++ (destination ++ rest)) = ⟨low, clause.length⟩)
    (undefined : Undefined s destination) :
    (withDestination s head (clause ++ (destination ++ rest))).destination = "" := by
  simp only [withDestination, read, List.drop_left, addressClause_undefined undefined]
  rfl

/-- The port of the source where no clause says it. -/
def unsaidPort (s : Symbols) (p : String) : String :=
  if !(s.traits p).allowsPorts || (s.traits p).isIcmp then Field.notApplicable
  else if (s.traits p).hasPorts then Field.anyPort
  else if (s.traits p).service then "?" ++ p
  else p

/-- Tokens that do not begin with a clause of the source's port. -/
structure NoPort (s : Symbols) (p : String) (tokens : List String) : Prop where
  operator : (s.traits p).hasPorts = true → Port.isOperator (token tokens) = false
  network : (s.traits p).hasPorts = true → token tokens = "object-group" →
    s.hasGroup .port (token (tokens.drop 1)) = false ∧ s.hasGroup .network (token (tokens.drop 1)) = true
  service : (s.traits p).service = true → s.hasGroup .port (token (tokens.drop 1)) = false

theorem sourceClause_absent (none : NoPort s p rest) : sourceClause s p rest = ⟨unsaidPort s p, 0⟩ := by
  simp only [sourceClause, sourcePort, unsaidPort]
  split
  · rfl
  split
  · next ports => rw [port_absent (none.operator ports) (none.network ports)]; rfl
  split
  · next service =>
    have single : s.hasGroup .port (token (rest.drop 1)) = false := none.service service
    rw [serviceGroup, single]
    rfl
  · rfl

theorem withDestination_absent {head : Record} {destination : List String}
    (none : NoPort s head.protocol (destination ++ rest)) (operand : Operand s destination) :
    withDestination s head (destination ++ rest) =
      withTrailer s { head with
        sourcePort := unsaidPort s head.protocol
        destination := addressValue s destination } rest := by
  simp only [withDestination, sourceClause_absent none, List.drop_zero, addressClause_operand operand,
    List.drop_left]

/-- A port condition or a group after the source. A group of no kind that is known counts as one of
ports, unless it is one of networks. A protocol that is a service has a group of ports only, after any
word. -/
inductive SourceClause (s : Symbols) (p : String) : List String → String → Prop where
  | port {tokens : List String} {value : String} (opened : (s.traits p).allowsPorts = true)
      (ports : (s.traits p).hasPorts = true)
      (operand : PortOperand s (portFamily (s.traits p)) tokens value) : SourceClause s p tokens value
  | other {g : String} (opened : (s.traits p).allowsPorts = true) (ports : (s.traits p).hasPorts = true)
      (noNetwork : s.hasGroup .network g = false) : SourceClause s p ["object-group", g] g
  | group {k g : String} (service : (s.traits p).service = true) (defined : s.hasGroup .port g = true) :
      SourceClause s p [k, g] g

theorem traits_of_service (service : (s.traits p).service = true) : s.traits p = { service := true } := by
  unfold Symbols.traits at service ⊢
  split at service
  · next isService => rw [if_pos isService]
  split at service
  · simp [service_union, Traits.none] at service
  · next free =>
    cases found : Traits.supported.lookup p with
    | some t =>
      have plain : t.service = false := (settled_supported _ (mem_of_lookup found)).2
      simp [found, plain] at service
    | none =>
      rw [found, Option.getD_none] at service
      split at service <;> cases service

theorem sourceClause_given {value : String} (clause : SourceClause s p tokens value) :
    sourceClause s p (tokens ++ rest) = ⟨value, tokens.length⟩ := by
  cases clause with
  | port opened ports operand =>
    have noMessages := isIcmp_of_hasPorts opened ports
    have read : port s (if (s.traits p).tcp then .tcp else .udp) [] (tokens ++ rest) =
        pure ⟨value, tokens.length⟩ := port_operand operand
    simp [sourceClause, sourcePort, opened, ports, noMessages, read]
  | other opened ports noNetwork =>
    have noMessages := isIcmp_of_hasPorts opened ports
    have read : port s (if (s.traits p).tcp then .tcp else .udp) [] ("object-group" :: value :: rest) =
        pure ⟨value, 2⟩ := by
      by_cases known : s.hasGroup .port value = true <;> simp [port, portOrGroup, known, noNetwork]
    simp [sourceClause, sourcePort, opened, ports, noMessages, read]
  | group service defined =>
    simp [sourceClause, sourcePort, traits_of_service service, Traits.allowsPorts, Traits.isIcmp,
      Traits.hasPorts, serviceGroup, defined]

structure Plain (s : Symbols) (tokens : List String) : Prop where
  operand : Operand s tokens
  operator : Port.isOperator (token tokens) = false
  group : token tokens = "object-group" → s.hasGroup .port (token (tokens.drop 1)) = false

theorem operand_start (operand : Operand s tokens) (rest : List String) :
    token (tokens ++ rest) = token tokens ∧ (token tokens = "object-group" →
      token ((tokens ++ rest).drop 1) = token (tokens.drop 1) ∧
        s.hasGroup .network (token (tokens.drop 1)) = true) := by
  cases operand with
  | everything any =>
    refine ⟨rfl, fun group => ?_⟩
    rw [token_cons] at group
    simp [group] at any
  | unread a known =>
    refine ⟨rfl, fun group => ?_⟩
    rw [token_cons] at group
    simp [group, unsupportedOperands] at known
  | masked m word =>
    refine ⟨rfl, fun group => ?_⟩
    rw [token_cons] at group
    simp [group, addressWords] at word
  | sized slash =>
    refine ⟨rfl, fun group => ?_⟩
    rw [token_cons] at group
    simp [group] at slash
  | host | object => exact ⟨rfl, by simp⟩
  | group defined => exact ⟨rfl, fun _ => ⟨rfl, defined⟩⟩

theorem Plain.noPort (plain : Plain s tokens)
    (clear : (s.traits p).service = true → s.hasGroup .port (token ((tokens ++ rest).drop 1)) = false) :
    NoPort s p (tokens ++ rest) := by
  obtain ⟨first, second⟩ := operand_start plain.operand rest
  refine ⟨fun _ => ?_, fun _ group => ?_, clear⟩
  · rw [first]
    exact plain.operator
  · rw [first] at group
    obtain ⟨same, network⟩ := second group
    rw [same]
    exact ⟨plain.group group, network⟩

/-- The tokens of an entry before one of its addresses, where any of the operands may stand. What
follows the operand is the rest. A protocol that is a service finds its group by the second token, so
that no operand may look like one. -/
inductive Front (s : Symbols) (operands : List (List String)) (rest : List String) : List String → Prop where
  | source {name action p : String} {proto : List String} (protocol : ProtocolClause s proto p) :
      Front s operands rest (["access-list", name, "extended", action] ++ proto)
  | destination {name action p : String} {proto source : List String}
      (protocol : ProtocolClause s proto p) (address : Operand s source)
      (clear : (s.traits p).service = true →
        ∀ o ∈ operands, s.hasGroup .port (token ((o ++ rest).drop 1)) = false) :
      Front s operands rest (["access-list", name, "extended", action] ++ proto ++ source)
  | port {name action p low : String} {proto source clause : List String}
      (protocol : ProtocolClause s proto p) (address : Operand s source)
      (port : SourceClause s p clause low) :
      Front s operands rest (["access-list", name, "extended", action] ++ proto ++ source ++ clause)
  | unaddressed {name action p : String} {proto source clause : List String}
      (protocol : ProtocolClause s proto p) (undefined : Undefined s source) :
      Front s operands rest (["access-list", name, "extended", action] ++ proto ++ source ++ clause)

/-- Entries with other operands at one place differ in the field of that place only, unless they have no
source at all. -/
theorem Front.reads {operands : List (List String)} {front : List String} (number : Nat)
    (before : Front s operands rest front) (plain : ∀ o ∈ operands, Plain s o) :
    let record (o : List String) := (extended s (front ++ (o ++ rest)) number).value
    (∃ r : Record, (∀ o ∈ operands, record o = { r with source := addressValue s o }) ∨
      (∀ o ∈ operands, record o = { r with destination := addressValue s o })) ∨
    ∀ o ∈ operands, (record o).source = "" := by
  intro record
  cases before with
  | @source name action p proto protocol =>
    refine .inl ⟨withDestination s (start name action p number "") rest, .inl fun o among => ?_⟩
    simp only [record]
    rw [List.append_assoc, extended_source protocol (plain o among).operand]
    rfl
  | @destination name action p proto source protocol address clear =>
    refine .inl ⟨withTrailer s { start name action p number (addressValue s source) with
      sourcePort := unsaidPort s p } rest, .inr fun o among => ?_⟩
    have noPort : NoPort s p (o ++ rest) := (plain o among).noPort fun service => clear service o among
    simp only [record]
    rw [List.append_assoc, List.append_assoc, extended_source protocol address]
    exact withDestination_absent noPort (plain o among).operand
  | @port name action p low proto source clause protocol address port =>
    refine .inl ⟨withTrailer s { start name action p number (addressValue s source) with
      sourcePort := low } rest, .inr fun o among => ?_⟩
    have read : sourceClause s p (clause ++ (o ++ rest)) = ⟨low, clause.length⟩ := sourceClause_given port
    simp only [record]
    rw [List.append_assoc, List.append_assoc, List.append_assoc, extended_source protocol address]
    exact withDestination_operand read (plain o among).operand
  | @unaddressed name action p proto source clause protocol undefined =>
    refine .inr fun o _ => ?_
    simp only [record]
    rw [List.append_assoc, List.append_assoc, List.append_assoc]
    exact extended_no_source protocol undefined name action number

end AccessList.Entry
