import AccessList.Proofs.Config.Tables
import AccessList.Proofs.Entry.Extended
import AccessList.Proofs.Entry.Reading
import AccessList.Proofs.Flatten.Distribution
import AccessList.Proofs.Service.Descriptor

/-! Service objects are shorthands. An entry with an object in place of its protocol gives the records of
the entry that has the protocol, with the clauses of the definition after its addresses. -/
namespace AccessList

open Text Clause Entry

variable {s : Symbols} {r : Record} {p t service descriptor value low high icmp : String}
  {lines tokens rest trail clauses first second source destination : List String}

/-- A record of a service is flattened as one that has what the descriptor says. -/
theorem flatten_described (given : r.protocol ≠ "") (group : s.hasGroup .protocol r.protocol = false)
    (object : s.object? .service r.protocol = some descriptor) (other : descriptor ≠ r.protocol) :
    flatten s [.protocol, .service, .port, .icmpType] [r] =
      flatten s [.port, .icmpType] [r.withoutClauses.withService descriptor] := by
  have protocols : s.members .protocol r.protocol = [r.protocol] := members_self given rfl group
  have services : s.members .service r.protocol = [descriptor] := members_object given object
  rw [flatten_cons, Stage.expand, protocols, List.map_singleton, flatten_cons]
  simp [Stage.expand, services, other]

theorem flatten_unaliased (given : r.protocol ≠ "") (free : s.Unaliased r.protocol)
    (noSlash : '/' ∉ r.protocol.toList) :
    flatten s [.protocol, .service, .port, .icmpType] [r] = flatten s [.port, .icmpType] [r] := by
  have protocols : s.members .protocol r.protocol = [r.protocol] :=
    members_self given rfl free.protocolGroups
  have none : s.object? .service r.protocol = none := by
    have absent : s.serviceObjects.get? r.protocol = none := by
      simpa [Table.contains] using free.serviceObjects
    simp [Symbols.object?, Symbols.objects?, absent]
  have services : s.members .service r.protocol = [r.protocol] :=
    members_self given none free.serviceGroups
  rw [flatten_cons, Stage.expand, protocols, List.map_singleton, flatten_cons]
  simp [Stage.expand, services, Service.withService_protocol _ noSlash]

/-- A service brings the same records as the protocol and the clauses that its descriptor says. -/
theorem flatten_service (given : r.protocol ≠ "") (group : s.hasGroup .protocol r.protocol = false)
    (object : s.object? .service r.protocol = some descriptor) (other : descriptor ≠ r.protocol)
    (free : s.Unaliased p) (written : p ≠ "") (noSlash : '/' ∉ p.toList)
    (meaning : ∀ r : Record, r.withoutClauses.withService descriptor =
      { r with protocol := p, sourcePort := low, destinationPort := high, icmp := icmp }) :
    flatten s Stage.all [r] = flatten s Stage.all
      [{ r with protocol := p, sourcePort := low, destinationPort := high, icmp := icmp }] := by
  rw [flatten_addresses, flatten_addresses]
  refine List.flatMap_congr fun a _ => List.flatMap_congr fun b _ => ?_
  let x : Record := { r with source := a, destination := b }
  let y : Record := { x with protocol := p, sourcePort := low, destinationPort := high, icmp := icmp }
  calc flatten s [.protocol, .service, .port, .icmpType] [x]
    _ = flatten s [.port, .icmpType] [x.withoutClauses.withService descriptor] :=
        flatten_described given group object other
    _ = flatten s [.port, .icmpType] [y] := by rw [meaning]
    _ = flatten s [.protocol, .service, .port, .icmpType] [y] :=
        (flatten_unaliased written free noSlash).symm

theorem noPort_of_clear {operand : List String} (nonempty : operand ≠ [])
    (noPorts : ∀ g, s.hasGroup .port g = false)
    (clear : (s.traits p).hasPorts = true → Port.isOperator (token operand) = false ∧
      (token operand = "object-group" → Operand s operand)) : NoPort s p (operand ++ rest) := by
  have first : token (operand ++ rest) = token operand := by
    cases operand with
    | nil => exact absurd rfl nonempty
    | cons => rfl
  refine ⟨fun ports => ?_, fun ports group => ⟨noPorts _, ?_⟩, fun _ => noPorts _⟩
  · rw [first]
    exact (clear ports).1
  · rw [first] at group
    obtain ⟨second, network⟩ := (operand_start ((clear ports).2 group) rest).2 group
    rwa [second]

theorem sourceClause_clauses (clauses : Clauses s (s.traits p) trail first second low high icmp)
    (clear : (s.traits p).hasPorts = true → first = [] → NoPort s p rest) :
    sourceClause s p (first ++ rest) = ⟨low, first.length⟩ := by
  cases clauses with
  | none closed => simp [sourceClause, sourcePort, closed]
  | icmp opened messages operand => simp [sourceClause, sourcePort, messages]
  | ports opened ports said _ _ =>
    cases said with
    | given operand => exact sourceClause_given (.port opened ports operand)
    | absent =>
      have noMessages := isIcmp_of_hasPorts opened ports
      have any : unsaidPort s p = Field.anyPort := by simp [unsaidPort, opened, ports, noMessages]
      rw [List.nil_append, sourceClause_absent (clear ports rfl), any]
      rfl

theorem trailerClause_clauses (clauses : Clauses s (s.traits p) trail first second low high icmp) :
    trailerClause s p (second ++ trail) = ⟨high, icmp, second.length⟩ :=
  congrArg Noted.value (trailer_clause clauses)

theorem noPort_service (defined : (s.object? .service service).isSome = true)
    (noPorts : ∀ g, s.hasGroup .port g = false) : NoPort s service rest := by
  have traits := traits_object defined
  refine ⟨?_, ?_, fun _ => noPorts _⟩ <;> simp [traits, Traits.hasPorts]

/-- An entry of a service has marks for its ports and its type, until it is flattened. -/
theorem extended_service (defined : (s.object? .service service).isSome = true)
    (noPorts : ∀ g, s.hasGroup .port g = false) (noMessages : ∀ g, s.hasGroup .icmpType g = false)
    (sourceGiven : Operand s source) (destinationGiven : Operand s destination) (name action : String)
    (number : Nat) :
    (extended s (["access-list", name, "extended", action] ++
      (["object", service] ++ (source ++ destination))) number).value =
      { start name action service number (addressValue s source) with
        sourcePort := "?" ++ service
        destination := addressValue s destination
        destinationPort := "?" ++ service
        icmp := "?" ++ service } := by
  have traits := traits_object defined
  have mark : unsaidPort s service = "?" ++ service := by
    simp [unsaidPort, traits, Traits.allowsPorts, Traits.isIcmp, Traits.hasPorts]
  have trailer : trailerClause s service [] = ⟨"?" ++ service, "?" ++ service, 0⟩ := by
    simp [trailerClause, trailer, traits, Traits.allowsPorts, Traits.isIcmp, Traits.hasPorts,
      serviceGroup, noPorts, noMessages]
  rw [extended_source (.object defined) sourceGiven, ← List.append_nil destination,
    withDestination_absent (noPort_service defined noPorts) destinationGiven]
  simp only [withTrailer, start, trailer, mark, List.append_nil]
  rfl

theorem extended_clauses {proto : List String} (protocol : ProtocolClause s proto p)
    (clauses : Clauses s (s.traits p) [] first second low high icmp)
    (clear : (s.traits p).hasPorts = true → first = [] → NoPort s p (destination ++ second))
    (sourceGiven : Operand s source) (destinationGiven : Operand s destination) (name action : String)
    (number : Nat) :
    (extended s (["access-list", name, "extended", action] ++
      (proto ++ (source ++ (first ++ (destination ++ second))))) number).value =
      { start name action p number (addressValue s source) with
        sourcePort := low
        destination := addressValue s destination
        destinationPort := high
        icmp := icmp } := by
  have trailer : trailerClause s p second = ⟨high, icmp, second.length⟩ := by
    rw [← List.append_nil second, trailerClause_clauses clauses, List.append_nil]
  rw [extended_source protocol sourceGiven,
    withDestination_operand (sourceClause_clauses clauses clear) destinationGiven]
  simp only [withTrailer, start, trailer, List.drop_length]
  rfl

theorem object_described {descriptor : String} (found : s.serviceObjects.get? service = some descriptor)
    (given : descriptor ≠ "") : s.object? .service service = some descriptor := by
  simp [Symbols.object?, Symbols.objects?, found, given]

theorem compile_service {proto : List String} (given : service ≠ "")
    (object : s.object? .service service = some descriptor) (other : descriptor ≠ service)
    (noPorts : ∀ g, s.hasGroup .port g = false) (noMessages : ∀ g, s.hasGroup .icmpType g = false)
    (noProtocols : s.hasGroup .protocol service = false)
    (protocol : ProtocolClause s proto p) (free : s.Unaliased p) (written : p ≠ "")
    (noSlash : '/' ∉ p.toList)
    (clauses : Clauses s (s.traits p) [] first second low high icmp)
    (meaning : ∀ r : Record, r.withoutClauses.withService descriptor =
      { r with protocol := p, sourcePort := low, destinationPort := high, icmp := icmp })
    (sourceGiven : Operand s source ∨ Undefined s source)
    (destinationGiven : Operand s destination ∨ Undefined s destination)
    (clear : (s.traits p).hasPorts = true → first = [] → NoPort s p (destination ++ second))
    (name action : String) (number : Nat) :
    compile s [["access-list", name, "extended", action] ++
        (["object", service] ++ (source ++ destination))] number =
      compile s [["access-list", name, "extended", action] ++
        (proto ++ (source ++ (first ++ (destination ++ second))))] number := by
  have defined : (s.object? .service service).isSome = true := by simp [object]
  have expanded (tokens : List String) : compile s [tokens] number =
      flatten s Stage.all [(extended s tokens number).value] := rfl
  rw [expanded, expanded]
  rcases sourceGiven with source' | none
  · rcases destinationGiven with destination' | none
    · rw [extended_service defined noPorts noMessages source' destination',
        extended_clauses protocol clauses clear source' destination']
      exact flatten_service given noProtocols object other free written noSlash meaning
    · have ofService : (withDestination s (start name action service number (addressValue s source))
          ([] ++ (destination ++ []))).destination = "" :=
        withDestination_undefined (sourceClause_absent (noPort_service defined noPorts)) none
      have ofClauses : (withDestination s (start name action p number (addressValue s source))
          (first ++ (destination ++ second))).destination = "" :=
        withDestination_undefined (sourceClause_clauses clauses clear) none
      rw [List.nil_append, List.append_nil] at ofService
      rw [extended_source (.object defined) source', extended_source protocol source',
        flatten_no_destination ofService, flatten_no_destination ofClauses]
  · rw [flatten_no_source (extended_no_source (.object defined) none name action number),
      flatten_no_source (extended_no_source protocol none name action number)]

/-- A service object is a shorthand: an entry that has it in place of its protocol gives the records of
the entry that writes the protocol and the clauses of the definition. -/
theorem services_transparent {name action : String} (number : Nat)
    (last : (Config.serviceObjectBody service lines).getLast? = some ("service" :: t :: clauses))
    (definition : Service.Definition p clauses first second)
    (protocol : ProtocolOperand (Config.symbols lines) [t] p)
    (noPorts : ∀ g, (Config.symbols lines).hasGroup .port g = false)
    (noMessages : ∀ g, (Config.symbols lines).hasGroup .icmpType g = false)
    (noProtocols : (Config.symbols lines).hasGroup .protocol service = false)
    (noFixpoint : (Config.symbols lines).serviceObjects.get? service ≠ some service)
    (sourceGiven : Operand (Config.symbols lines) source ∨ Undefined (Config.symbols lines) source)
    (destinationGiven : Operand (Config.symbols lines) destination ∨
      Undefined (Config.symbols lines) destination)
    (clear : ((Config.symbols lines).traits p).hasPorts = true → first = [] →
      Port.isOperator (token destination) = false ∧
        (token destination = "object-group" → Operand (Config.symbols lines) destination)) :
    compile (Config.symbols lines)
        [["access-list", name, "extended", action] ++ (["object", service] ++ (source ++ destination))] number =
      compile (Config.symbols lines)
        [["access-list", name, "extended", action] ++
          ([t] ++ (source ++ (first ++ (destination ++ second))))] number := by
  have entry : (Config.symbols lines).serviceObjects.get? service =
      some (Service.describe (t :: clauses)).value := by
    rw [Config.serviceObjects_symbols, last]
    rfl
  obtain ⟨low, high, icmp, said, descriptorGiven, meaning⟩ := definition.meaning protocol
  obtain ⟨plain, same, written, noSlash⟩ := Service.protocol_written protocol
  have given : service ≠ "" := Config.ne_empty_of_mem_serviceObjectBody (List.mem_of_getLast? last)
  have other : (Service.describe (t :: clauses)).value ≠ service :=
    fun fixpoint => noFixpoint (entry.trans (congrArg some fixpoint))
  have nonempty : destination ≠ [] := by
    rcases destinationGiven with operand | none
    · cases operand <;> simp
    · cases none <;> simp
  exact compile_service given (object_described entry descriptorGiven) other noPorts noMessages noProtocols
    (same ▸ .word plain) (Service.unaliased protocol) written noSlash said meaning sourceGiven
    destinationGiven (fun ports unsaid => noPort_of_clear nonempty noPorts fun _ => clear ports unsaid)
    name action number

/-- A range of source ports and a named port of the destination. -/
theorem services_transparent_mail :
    let lines := ["object service mail", " service tcp source range 1024 65535 destination eq smtp"]
    let s := Config.symbols lines
    let clauses := ["source", "range", "1024", "65535", "destination", "eq", "smtp"]
    (Config.serviceObjectBody "mail" lines).getLast? = some ("service" :: "tcp" :: clauses) ∧
      Service.Definition "6" clauses ["range", "1024", "65535"] ["eq", "smtp"] ∧
      ProtocolOperand s ["tcp"] "6" ∧ (∀ g, s.hasGroup .port g = false) ∧
      (∀ g, s.hasGroup .icmpType g = false) ∧ s.hasGroup .protocol "mail" = false ∧
      s.serviceObjects.get? "mail" ≠ some "mail" ∧ Operand s ["any"] ∧ Operand s ["host", "10.0.0.25"] ∧
      compile s [["access-list", "inside", "extended", "permit"] ++
          (["object", "mail"] ++ (["any"] ++ ["host", "10.0.0.25"]))] 1 =
        compile s [["access-list", "inside", "extended", "permit"] ++
          (["tcp"] ++ (["any"] ++ (["range", "1024", "65535"] ++
            (["host", "10.0.0.25"] ++ ["eq", "smtp"]))))] 1 := by
  intro lines s clauses
  have tables : Config.symbols lines = { serviceObjects := ⟨[("mail", "6/range/1024-65535/eq/25")]⟩ } := by
    decide +kernel
  have last : (Config.serviceObjectBody "mail" lines).getLast? = some ("service" :: "tcp" :: clauses) := by
    decide +kernel
  have definition : Service.Definition "6" clauses ["range", "1024", "65535"] ["eq", "smtp"] :=
    .ports (.inl rfl) (.inr (.range (by decide) (by decide) (by decide) (by decide)))
      (.inr (.compare (by decide) (by decide) (by decide)))
  have protocol : ProtocolOperand s ["tcp"] "6" := by
    simp only [s]
    rw [tables]
    exact .name (n := 6) (by decide) ⟨by decide, by decide, by decide⟩
  have noGroups (kind : GroupKind) (g : String) : s.hasGroup kind g = false := by
    simp only [s]
    rw [tables]
    cases kind <;> rfl
  have noFixpoint : s.serviceObjects.get? "mail" ≠ some "mail" := by
    simp only [s]
    rw [tables]
    decide
  have source : Operand s ["any"] := .everything (by decide)
  have destination : Operand s ["host", "10.0.0.25"] := .host "10.0.0.25"
  exact ⟨last, definition, protocol, noGroups .port, noGroups .icmpType, noGroups .protocol "mail",
    noFixpoint, source, destination, services_transparent 1 last definition protocol (noGroups .port) (noGroups .icmpType)
      (noGroups .protocol "mail") noFixpoint (.inl source) (.inl destination) (by simp)⟩

/-- A name that is an operator reads as a port, a group that is not defined reads as one of ports, and an
alias that is its own descriptor is passed over. -/
theorem services_read_otherwise :
    let named := Config.symbols ["name 10.0.0.0 eq", "object service web", " service tcp"]
    let undefined := Config.symbols ["object service web", " service tcp destination eq 255.0.0.0"]
    let fixpoint := Config.symbols ["object service 1/8/0", " service icmp echo 0"]
    let permit (tokens : List String) := [["access-list", "inside", "extended", "permit"] ++ tokens]
    (named.serviceObjects.get? "web" = some "6/eq/any/eq/any" ∧
      compile named (permit ["object", "web", "any", "eq", "255.0.0.0"]) 1 ≠
        compile named (permit ["tcp", "any", "eq", "255.0.0.0"]) 1) ∧
    (undefined.serviceObjects.get? "web" = some "6/eq/any/eq/255.0.0.0" ∧
      compile undefined (permit ["object", "web", "any", "object-group", "servers"]) 1 ≠
        compile undefined (permit ["tcp", "any", "object-group", "servers", "eq", "255.0.0.0"]) 1) ∧
    (fixpoint.serviceObjects.get? "1/8/0" = some "1/8/0" ∧
      compile fixpoint (permit ["object", "1/8/0", "any", "any"]) 1 ≠
        compile fixpoint (permit ["icmp", "any", "any", "echo", "0"]) 1) := by
  decide +kernel

end AccessList
