import AccessList.Entry.Listing
import AccessList.Proofs.Config.Unreadable
import AccessList.Proofs.Flatten.Concrete

/-! Empty fields of flattened records. A field that is looked up is dropped where it is empty, and a lookup
gives an empty text only in a group of networks, one with an address that cannot be read. So ports and ICMP
types are never empty, an address only where it comes from such a group, and a protocol only where a text that
stands for a service begins with a slash. -/
namespace AccessList

open Config Text

variable {s : Symbols} {kind : GroupKind} {field descriptor : String} {r d : Record} {stage : Stage}
  {rest : List Stage} {lines : List String}

/-- A descriptor with a type and a code, or with ports, and without a protocol. -/
def Service.IsHeadless (descriptor : String) : Prop :=
  front descriptor = "" ∧ ((fields '/' descriptor).length = 3 ∨ (fields '/' descriptor).length = 5)

theorem Service.protocol_eq_empty (given : descriptor ≠ "") (r : Record) :
    (r.withService descriptor).protocol = "" ↔ IsHeadless descriptor := by
  unfold Record.withService IsHeadless front
  split
  · next protocol parts =>
    obtain rfl := eq_of_fields parts
    simp [parts, given]
  · next parts => simp [parts]
  · next parts => simp [parts]
  · next three five =>
    generalize fields '/' descriptor = parts at three five
    have other : parts.length ≠ 3 ∧ parts.length ≠ 5 := by
      constructor
      · rintro length
        match parts, length with
        | [protocol, type, code], _ => exact three protocol type code rfl
      · rintro length
        match parts, length with
        | [protocol, low, source, high, destination], _ => exact five protocol low source high destination rfl
    simp [given, other]

theorem empty_mem_members (empty : "" ∈ s.members kind field) :
    ∃ members, (s.groups kind).get? field = some members ∧ "" ∈ members := by
  unfold Symbols.members at empty
  split at empty
  · cases empty
  next given =>
  split at empty
  · next value object =>
    obtain rfl := List.mem_singleton.mp empty
    obtain ⟨objects, _, found⟩ := Option.bind_eq_some_iff.mp object
    simp [Option.filter_eq_some_iff] at found
  · cases group : (s.groups kind).get? field with
    | some members =>
      rw [group, Option.getD_some] at empty
      exact ⟨members, rfl, empty⟩
    | none =>
      rw [group, Option.getD_none, List.mem_singleton] at empty
      simp [← empty] at given

theorem ne_empty_of_mem (other : kind ≠ .network) {value : String}
    (member : value ∈ (symbols lines).members kind field) : value ≠ "" := by
  rintro rfl
  obtain ⟨members, found, empty⟩ := empty_mem_members member
  exact members_given other found "" empty rfl

theorem takesUnreadable_of_mem (empty : "" ∈ (symbols lines).members .network field) :
    TakesUnreadable lines field := by
  obtain ⟨members, found, among⟩ := empty_mem_members empty
  exact (empty_member lines field).1 members found among

theorem exists_makes (member : d ∈ flatten s (stage :: rest) [r]) :
    ∃ between, Stage.Makes s r stage between ∧ d ∈ flatten s rest [between] := by
  obtain ⟨between, made, member⟩ := mem_flatten_cons.mp member
  exact ⟨between, Stage.makes_of_mem made, member⟩

/-- What every stage keeps, flattening keeps. -/
theorem flatten_induction {P : Record → Prop} (step : ∀ {stage r d}, Stage.Makes s r stage d → P r → P d)
    (start : P r) {stages : List Stage} (member : d ∈ flatten s stages [r]) : P d := by
  induction stages generalizing r with
  | nil =>
    obtain rfl := List.mem_singleton.mp member
    exact start
  | cons stage rest ih =>
    obtain ⟨between, made, later⟩ := exists_makes member
    exact ih (step made start) later

theorem Stage.Makes.addresses (later : stage ≠ .network) (made : Makes s r stage d) :
    d.source = r.source ∧ d.destination = r.destination := by
  cases made with
  | network => exact absurd rfl later
  | protocol | port | icmpType => exact ⟨rfl, rfl⟩
  | @service descriptor base _ cleared =>
    obtain ⟨source, destination⟩ := Service.addresses_withService base descriptor
    rw [source, destination]
    rcases cleared with rfl | rfl <;> exact ⟨rfl, rfl⟩

/-- A group of networks with an address that cannot be read stands for an empty one too. -/
theorem empty_mem_of_hasUnreadable (given : field ≠ "") (plain : (symbols lines).object? .network field = none)
    (unreadable : HasUnreadable lines field) : "" ∈ (symbols lines).members .network field := by
  obtain ⟨members, found, empty⟩ := (empty_member lines field).2 unreadable
  rwa [members_group given plain found]

/-- Where the fields of a flattened record come from. -/
structure ComesFrom (s : Symbols) (r d : Record) : Prop where
  source : d.source ∈ s.members .network r.source
  destination : d.destination ∈ s.members .network r.destination
  protocol : ∃ p ∈ s.members .protocol r.protocol, ∃ descriptor ∈ s.members .service p, ∃ base : Record,
    d.protocol = (base.withService descriptor).protocol
  sourcePort : ∃ field, d.sourcePort ∈ s.members .port field
  destinationPort : ∃ field, d.destinationPort ∈ s.members .port field
  icmp : ∃ type, d.icmp = Icmp.withCode type

theorem comesFrom_of_mem (member : d ∈ flatten s Stage.all [r]) : ComesFrom s r d := by
  -- One record after each stage; a field is traced back to the stage that wrote it.
  obtain ⟨addressed, network, member⟩ := exists_makes member
  obtain ⟨named, protocol, member⟩ := exists_makes member
  obtain ⟨served, service, member⟩ := exists_makes member
  obtain ⟨ported, port, member⟩ := exists_makes member
  obtain ⟨whole, icmpType, member⟩ := exists_makes member
  obtain rfl : d = whole := List.mem_singleton.mp member
  have addresses : d.source = addressed.source ∧ d.destination = addressed.destination := by
    have second := protocol.addresses (by decide)
    have third := service.addresses (by decide)
    have fourth := port.addresses (by decide)
    have fifth := icmpType.addresses (by decide)
    grind
  have last : d.protocol = ported.protocol ∧ d.sourcePort = ported.sourcePort ∧
      d.destinationPort = ported.destinationPort ∧ ∃ type, d.icmp = Icmp.withCode type := by
    cases icmpType
    exact ⟨rfl, rfl, rfl, _, rfl⟩
  have ports : ported.protocol = served.protocol ∧ (∃ field, ported.sourcePort ∈ s.members .port field) ∧
      ∃ field, ported.destinationPort ∈ s.members .port field := by
    cases port with
    | port inSource inDestination => exact ⟨rfl, ⟨_, inSource⟩, _, inDestination⟩
  have descriptor : ∃ descriptor ∈ s.members .service named.protocol, ∃ base : Record,
      served.protocol = (base.withService descriptor).protocol := by
    cases service with
    | service inService => exact ⟨_, inService, _, rfl⟩
  have protocols : named.protocol ∈ s.members .protocol addressed.protocol := by
    cases protocol with
    | protocol inProtocol => exact inProtocol
  obtain ⟨inSource, inDestination⟩ := network
  obtain ⟨protocolKept, sourcePortKept, destinationPortKept, icmp⟩ := last
  obtain ⟨protocolServed, sourcePort, destinationPort⟩ := ports
  exact {
    source := by rwa [addresses.1]
    destination := by rwa [addresses.2]
    protocol := by
      rw [protocolKept, protocolServed]
      exact ⟨_, protocols, descriptor⟩
    sourcePort := by rwa [sourcePortKept]
    destinationPort := by rwa [destinationPortKept]
    icmp }

theorem Icmp.withCode_ne_empty (type : String) : withCode type ≠ "" := by
  unfold withCode
  split
  · next coded =>
    rintro rfl
    cases coded
  · simp [toString]

/-- The fields of a record of an entry: which are never empty, and where the others may be so. -/
theorem empty_fields (member : d ∈ flatten (symbols lines) Stage.all [r]) :
    d.sourcePort ≠ "" ∧ d.destinationPort ≠ "" ∧ d.icmp ≠ "" ∧
      (d.source = "" → TakesUnreadable lines r.source) ∧
      (d.destination = "" → TakesUnreadable lines r.destination) ∧
      (d.protocol = "" → ∃ p ∈ (symbols lines).members .protocol r.protocol,
        ∃ descriptor ∈ (symbols lines).members .service p, Service.IsHeadless descriptor) := by
  obtain ⟨source, destination, protocol, sourcePort, destinationPort, icmp⟩ := comesFrom_of_mem member
  obtain ⟨_, sourcePort⟩ := sourcePort
  obtain ⟨_, destinationPort⟩ := destinationPort
  obtain ⟨type, icmp⟩ := icmp
  refine ⟨ne_empty_of_mem (by decide) sourcePort, ne_empty_of_mem (by decide) destinationPort, ?_, ?_, ?_, ?_⟩
  · rw [icmp]
    exact Icmp.withCode_ne_empty type
  · intro empty
    exact takesUnreadable_of_mem (empty ▸ source)
  · intro empty
    exact takesUnreadable_of_mem (empty ▸ destination)
  · intro empty
    obtain ⟨p, inProtocol, descriptor, inService, base, value⟩ := protocol
    have given : descriptor ≠ "" := ne_empty_of_mem (by decide) inService
    exact ⟨p, inProtocol, descriptor, inService, (Service.protocol_eq_empty given base).mp (value ▸ empty)⟩

theorem exists_empty_source (kept : flatten (symbols lines) Stage.all [r] ≠ [])
    (plain : (symbols lines).object? .network r.source = none) (unreadable : HasUnreadable lines r.source) :
    ∃ d ∈ flatten (symbols lines) Stage.all [r], d.source = "" := by
  have given : r.source ≠ "" := fun empty => kept (flatten_no_source empty)
  obtain ⟨d, member⟩ := List.exists_mem_of_ne_nil _ kept
  have inDestination := (comesFrom_of_mem member).destination
  obtain ⟨d', reached, value, _⟩ :=
    exists_addressed kept (empty_mem_of_hasUnreadable given plain unreadable) inDestination
  exact ⟨d', reached, value⟩

theorem exists_empty_destination (kept : flatten (symbols lines) Stage.all [r] ≠ [])
    (plain : (symbols lines).object? .network r.destination = none)
    (unreadable : HasUnreadable lines r.destination) :
    ∃ d ∈ flatten (symbols lines) Stage.all [r], d.destination = "" := by
  have given : r.destination ≠ "" := fun empty => kept (flatten_no_destination empty)
  obtain ⟨d, member⟩ := List.exists_mem_of_ne_nil _ kept
  have inSource := (comesFrom_of_mem member).source
  obtain ⟨d', reached, _, value⟩ :=
    exists_addressed kept inSource (empty_mem_of_hasUnreadable given plain unreadable)
  exact ⟨d', reached, value⟩

/-- Ports and ICMP types are never empty. An address is so only where the entry takes an address that cannot
be read from a group of networks, and a protocol only where the entry takes a descriptor without one. An
address that cannot be read comes through to the records of its group all the same, whereas an entry that lacks
an address or a protocol of its own is dropped. -/
theorem fields_given (lines acl : List String) :
    let s := symbols lines
    let entries := (Listing.ofLines s acl).records
    let flattened (entries : List Record) := flatten s ({} : Switches).enabled entries
    (∀ d ∈ flattened entries, d.sourcePort ≠ "" ∧ d.destinationPort ≠ "" ∧ d.icmp ≠ "" ∧
      ∃ r ∈ entries, d ∈ flattened [r] ∧
        (d.source = "" → TakesUnreadable lines r.source) ∧
        (d.destination = "" → TakesUnreadable lines r.destination) ∧
        (d.protocol = "" → ∃ p ∈ s.members .protocol r.protocol, ∃ descriptor ∈ s.members .service p,
          Service.IsHeadless descriptor)) ∧
    (∀ r, flattened [r] ≠ [] →
      (s.object? .network r.source = none → HasUnreadable lines r.source →
        ∃ d ∈ flattened [r], d.source = "") ∧
      (s.object? .network r.destination = none → HasUnreadable lines r.destination →
        ∃ d ∈ flattened [r], d.destination = "")) ∧
    ∀ r, r.source = "" ∨ r.destination = "" ∨ r.protocol = "" → flattened [r] = [] := by
  intro s entries flattened
  have all : flattened = flatten s Stage.all := by
    simp only [flattened, (by decide : ({} : Switches).enabled = Stage.all)]
  rw [all]
  refine ⟨fun d member => ?_, fun r kept => ⟨exists_empty_source kept, exists_empty_destination kept⟩, ?_⟩
  · rw [flatten_eq_flatMap] at member
    obtain ⟨r, entry, ofEntry⟩ := List.mem_flatMap.mp member
    obtain ⟨sourcePort, destinationPort, icmp, others⟩ := empty_fields ofEntry
    exact ⟨sourcePort, destinationPort, icmp, r, entry, ofEntry, others⟩
  · rintro r (source | destination | protocol)
    · exact flatten_no_source source
    · exact flatten_no_destination destination
    · exact flatten_no_protocol protocol

/-- A group takes an address with an unreadable netmask, and an entry has that for its source. -/
theorem unreadable_address_kept :
    let s := symbols ["object-group network servers", " network-object 10.0.0.0 255.0.255"]
    let acl := ["access-list inside extended permit ip object-group servers any"]
    s.networkGroups.get? "servers" = some [""] ∧
      flatten s ({} : Switches).enabled (Listing.ofLines s acl).records = [{
        list := "inside", line := 1, type := "extended", action := "permit", protocol := "ip", source := ""
        sourcePort := "-/-", destination := "0/0", destinationPort := "-/-", icmp := "-/-" }] := by
  intro s acl
  exact ⟨by decide +kernel, by decide +kernel⟩

end AccessList
