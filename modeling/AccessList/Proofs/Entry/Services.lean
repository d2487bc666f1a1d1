import AccessList.Proofs.Entry.Extended
import AccessList.Proofs.Entry.Reading

/-! Entries whose protocol is a service. After each address a group may follow, and where it does not the
service brings the value. The reader knows a group by the second of the tokens that are next, so that the
operand of the destination or the end of the entry may pass for one. -/
namespace AccessList.Entry

open Text Clause

variable {s : Symbols} {line proto tokens rest : List String} {value p : String}

/-- A service in place of a protocol. An object without a value does not count as defined. -/
inductive ServiceOperand (s : Symbols) : List String → String → Prop where
  | object {o : String} (defined : (s.object? .service o).isSome = true) :
      ServiceOperand s ["object", o] o
  | group {g : String} (defined : s.hasGroup .service g = true) : ServiceOperand s ["object-group", g] g

/-- The operand of an address, literal or by a name, which may stand before a netmask or a prefix length
as well. A host may be a domain name. -/
inductive NamedOperand (s : Symbols) : List String → String → Prop where
  | literal {tokens : List String} {value : String} (operand : AddressOperand s tokens value) :
      NamedOperand s tokens value
  | domain {a : String} (literal : s.names.get? a = none) (noColon : ':' ∉ a.toList)
      (noQuad : Address.looksDotted a = false) : NamedOperand s ["host", a] a
  | host4 {n : String} {name : Name} (known : s.names.get? n = some name)
      (noColon : ':' ∉ name.address.toList) : NamedOperand s ["host", n] s!"{name.address}/32"
  | host6 {n : String} {name : Name} (known : s.names.get? n = some name)
      (colon : ':' ∈ name.address.toList) : NamedOperand s ["host", n] s!"{name.address}/128"
  | masked {n m : String} {name : Name} {mask : Address .v4} (known : s.names.get? n = some name)
      (word : n ∉ addressWords) (given : n ≠ "") (noSlash : '/' ∉ n.toList)
      (netmask : Family.v4.read? m = some mask) :
      NamedOperand s [n, m] s!"{name.address}/{Address.maskLength mask}"
  | sized {n p : String} {name : Name} (known : s.names.get? n = some name) (noSlash : '/' ∉ n.toList) :
      NamedOperand s [s!"{n}/{p}"] s!"{name.address}/{p}"

/-- A group after an address, and what stands for one that is not there. -/
inductive GroupClause (isGroup : String → Bool) (service : String) : List String → String → Prop where
  | absent : GroupClause isGroup service [] ("?" ++ service)
  | given {g : String} (defined : isGroup g = true) :
      GroupClause isGroup service ["object-group", g] g

theorem definedAddress_named (operand : NamedOperand s tokens value) :
    definedAddress s line (tokens ++ rest) = pure ⟨value, tokens.length⟩ := by
  have host {a v : String} (written : Clause.host s.names a = v) :
      definedAddress s line ("host" :: a :: rest) = pure ⟨v, 2⟩ := by
    simp [definedAddress, address, unsupportedOperands, Clause.address, written]
  cases operand with
  | literal operand => exact definedAddress_operand operand
  | domain literal noColon noQuad =>
    have colon : has ':' value = false := by simpa [has] using noColon
    apply host
    simp [Clause.host, literal, Address.host?, colon, noQuad]
  | host4 known noColon =>
    apply host
    simp [Clause.host, known, has, noColon]
  | host6 known colon =>
    apply host
    simp [Clause.host, known, has, colon]
  | @masked n m name mask known word given noSlash netmask =>
    have slash : has '/' n = false := by simpa [has] using noSlash
    have givenMask : m ≠ "" := by
      rintro rfl
      cases netmask
    rw [List.cons_append, definedAddress_literal line _ word given, slash]
    simp [maskedAddress, known, givenMask, Address.withNetmask?, Address.netmaskLength?, netmask]
  | @sized n p name known noSlash =>
    have slash : '/' ∈ s!"{n}/{p}".toList := mem_join_self rfl
    have split : cut '/' s!"{n}/{p}" = some (n, p) := cut_join rfl noSlash
    have word : s!"{n}/{p}" ∉ addressWords :=
      fun member => not_keyword_of_slash slash (addressWord_keyword _ member)
    rw [List.cons_append, definedAddress_literal line _ word (ne_empty_of_slash slash),
      if_pos (has_iff.mpr slash)]
    simp only [slashedAddress, split, Option.getD_some, known]
    rfl

theorem protocol_service (operand : ServiceOperand s tokens p) :
    protocol s line (tokens ++ rest) = pure ⟨p, tokens.length⟩ := by
  cases operand with
  | object defined => exact protocol_clause (.object defined)
  | group defined => exact protocol_clause (.group (.inr defined))

theorem traits_service (operand : ServiceOperand s tokens p) : s.traits p = { service := true } := by
  cases operand with
  | object defined => exact traits_object defined
  | group defined =>
    have known : s.serviceGroups.contains p = true := defined
    simp [Symbols.traits, known]

/-- A group that is there is read whole, and one that is not leaves all tokens, if no group is named by
the second of them. -/
theorem serviceGroup_clause {isGroup : String → Bool} (clause : GroupClause isGroup p tokens value)
    (clear : tokens = [] → isGroup (token (rest.drop 1)) = false) :
    serviceGroup isGroup p (tokens ++ rest) = ⟨value, tokens.length⟩ := by
  cases clause with
  | absent =>
    have noGroup := clear rfl
    rw [List.nil_append, serviceGroup, noGroup]
    rfl
  | given defined => simp [serviceGroup, defined]

theorem sourcePort_service (service : ServiceOperand s proto p)
    (clause : GroupClause (s.hasGroup .port) p tokens value)
    (clear : tokens = [] → s.hasGroup .port (token (rest.drop 1)) = false) :
    sourcePort s p line (tokens ++ rest) = pure ⟨value, tokens.length⟩ := by
  have traits := traits_service service
  simp [sourcePort, traits, Traits.allowsPorts, Traits.isIcmp, Traits.hasPorts,
    serviceGroup_clause clause clear]

theorem trailer_service (service : ServiceOperand s proto p)
    (clause : GroupClause (fun g => s.hasGroup .port g || s.hasGroup .icmpType g) p tokens value)
    (clear : tokens = [] → s.hasGroup .port (token (rest.drop 1)) = false ∧
      s.hasGroup .icmpType (token (rest.drop 1)) = false) :
    trailer s p line (tokens ++ rest) = pure ⟨value, value, tokens.length⟩ := by
  have traits := traits_service service
  have read := serviceGroup_clause clause fun unsaid => Bool.or_eq_false_iff.mpr (clear unsaid)
  simp [trailer, traits, Traits.allowsPorts, Traits.isIcmp, Traits.hasPorts, read]

theorem network_of_group (operand : NamedOperand s tokens value) (group : token tokens = "object-group")
    (rest : List String) :
    s.hasGroup .network (token ((tokens ++ rest).drop 1)) = true := by
  cases operand with
  | @literal tokens value operand =>
    have first : token (tokens ++ rest) = "object-group" := by cases operand <;> exact group
    exact (address_start operand rest).2 first
  | domain | host4 | host6 => simp at group
  | masked known word =>
    rw [token_cons] at group
    subst group
    exact absurd (by decide) word
  | @sized n p =>
    have slash : '/' ∈ s!"{n}/{p}".toList := mem_join_self rfl
    rw [token_cons] at group
    rw [group] at slash
    exact absurd slash (by decide)

/-- What comes after the source of a service's entry is read as a group of ports only where it is one. -/
theorem clear_of_distinct (distinct : ∀ g, s.hasGroup .port g = true → s.hasGroup .network g = false)
    (destination : NamedOperand s tokens value)
    (clear : token tokens ≠ "object-group" → s.hasGroup .port (token ((tokens ++ rest).drop 1)) = false) :
    s.hasGroup .port (token ((tokens ++ rest).drop 1)) = false := by
  by_cases group : token tokens = "object-group"
  · have network := network_of_group destination group rest
    rw [← Bool.not_eq_true]
    intro ports
    exact absurd network (Bool.eq_false_iff.mp (distinct _ ports))
  · exact clear group

/-- An entry of a service is read into the record of its operands and groups, without a notice. Where a
group is left out, the second of the tokens that stand in its place has to be the alias of no such group;
of a group at the destination this is so, as no group is one of ports and of networks. -/
theorem service_reads {source first destination second trail : List String} {p a b low high : String}
    (distinct : ∀ g, s.hasGroup .port g = true → s.hasGroup .network g = false)
    (service : ServiceOperand s proto p) (sourceOperand : NamedOperand s source a)
    (sourceGroup : GroupClause (s.hasGroup .port) p first low)
    (destinationOperand : NamedOperand s destination b)
    (destinationGroup : GroupClause (fun g => s.hasGroup .port g || s.hasGroup .icmpType g) p second high)
    (sourceClear : first = [] → token destination ≠ "object-group" →
      s.hasGroup .port (token ((destination ++ (second ++ trail)).drop 1)) = false)
    (destinationClear : second = [] → s.hasGroup .port (token (trail.drop 1)) = false ∧
      s.hasGroup .icmpType (token (trail.drop 1)) = false)
    (name action : String) (number : Nat) :
    extended s (["access-list", name, "extended", action] ++
        (proto ++ (source ++ (first ++ (destination ++ (second ++ trail)))))) number = pure {
      list := name
      line := number
      type := "extended"
      action := action
      protocol := p
      source := a
      sourcePort := low
      destination := b
      destinationPort := high
      icmp := high
      state := if "inactive" ∈ trail then "inactive" else "active" } := by
  have head (rest : List String) : ["access-list", name, "extended", action] ++ rest =
      "access-list" :: name :: "extended" :: action :: rest := rfl
  have sourceAfter (unsaid : first = []) :
      s.hasGroup .port (token ((destination ++ (second ++ trail)).drop 1)) = false :=
    clear_of_distinct distinct destinationOperand (sourceClear unsaid)
  simp only [extended, head, List.drop_succ_cons, List.drop_zero, token_cons, protocol_service service,
    definedAddress_named sourceOperand, definedAddress_named destinationOperand,
    sourcePort_service service sourceGroup sourceAfter,
    trailer_service service destinationGroup destinationClear, Noted.pure_bind, List.drop_left, state,
    isInactive, List.contains_iff_mem]

/-- The host of a name after a group of services, and behind a group of networks a group of ports. -/
theorem service_reads_groups :
    let s : Symbols := { names := ⟨[("relay", ⟨"10.0.0.25", ""⟩)]⟩
                         serviceGroups := ⟨[("mail", ["6/eq/any/eq/25"])]⟩
                         networkGroups := ⟨[("servers", ["10.1.0.0/16"])]⟩
                         portGroups := ⟨[("submission", ["eq/587"])]⟩ }
    (∀ g, s.hasGroup .port g = true → s.hasGroup .network g = false) ∧
      ServiceOperand s ["object-group", "mail"] "mail" ∧
      NamedOperand s ["host", "relay"] "10.0.0.25/32" ∧ GroupClause (s.hasGroup .port) "mail" [] "?mail" ∧
      NamedOperand s ["object-group", "servers"] "servers" ∧
      GroupClause (fun g => s.hasGroup .port g || s.hasGroup .icmpType g) "mail"
        ["object-group", "submission"] "submission" ∧
      extended s ["access-list", "inside", "extended", "permit", "object-group", "mail", "host", "relay",
          "object-group", "servers", "object-group", "submission", "log", "inactive"] 3 = pure {
        list := "inside"
        line := 3
        type := "extended"
        action := "permit"
        protocol := "mail"
        source := "10.0.0.25/32"
        sourcePort := "?mail"
        destination := "servers"
        destinationPort := "submission"
        icmp := "submission"
        state := "inactive" } := by
  intro s
  have distinct : ∀ g, s.hasGroup .port g = true → s.hasGroup .network g = false := by
    intro g defined
    obtain rfl : g = "submission" := by
      simpa [s, Symbols.hasGroup, Symbols.groups, Table.contains, Table.get?] using defined
    decide
  have service : ServiceOperand s ["object-group", "mail"] "mail" := .group (by decide)
  have relay : s.names.get? "relay" = some ⟨"10.0.0.25", ""⟩ := by decide
  have source : NamedOperand s ["host", "relay"] "10.0.0.25/32" := .host4 relay (by decide)
  have destination : NamedOperand s ["object-group", "servers"] "servers" := .literal (.group (by decide))
  have submission : GroupClause (fun g => s.hasGroup .port g || s.hasGroup .icmpType g) "mail"
      ["object-group", "submission"] "submission" := .given (by decide)
  refine ⟨distinct, service, source, .absent, destination, submission, ?_⟩
  exact service_reads distinct service source .absent destination submission (by simp) (by simp)
    "inside" "permit" 3

/-- A name with the alias of a group of ports is taken for that group and its host is lost, an option at
the end of an entry is taken for one as well, and an object without a value is no service. -/
theorem group_alias_taken_for_group :
    let s : Symbols := { names := ⟨[("web", ⟨"10.1.1.1", ""⟩)]⟩
                         serviceObjects := ⟨[("mail", "6/eq/any/eq/25"), ("empty", "")]⟩
                         portGroups := ⟨[("web", ["eq/80"])]⟩ }
    let record (tokens : List String) : Record :=
      (extended s (["access-list", "inside", "extended", "permit"] ++ tokens) 1).value
    (∀ g, s.hasGroup .port g = true → s.hasGroup .network g = false) ∧
      ServiceOperand s ["object", "mail"] "mail" ∧ NamedOperand s ["any"] "0/0" ∧
      NamedOperand s ["host", "web"] "10.1.1.1/32" ∧
      ((record ["object", "mail", "any", "host", "web"]).sourcePort = "web" ∧
        (record ["object", "mail", "any", "host", "web"]).destination = "") ∧
      (record ["object", "mail", "any", "any", "time-range", "web"]).destinationPort = "web" ∧
      (s.serviceObjects.contains "empty" = true ∧
        (record ["object", "empty", "any", "any"]).source = "") := by
  intro s record
  have distinct : ∀ g, s.hasGroup .port g = true → s.hasGroup .network g = false := by
    intro g _
    rfl
  have web : s.names.get? "web" = some ⟨"10.1.1.1", ""⟩ := by decide
  exact ⟨distinct, .object (by decide), .literal .any, .host4 web (by decide), by decide, by decide, by decide⟩

end AccessList.Entry
