import AccessList.Proofs.Entry.Origin
import AccessList.Proofs.Entry.Reading
import AccessList.Proofs.Flatten.Fields

/-! The marks that hold the place of what a service brings. An entry of a service has a mark for each of its
clauses without a group, and the stage of services puts what the service brings in its place. The stage takes
a protocol for a plain one, whose clauses stay, when the first value that it stands for is the protocol itself.
A service may look so at that stage, and then its marks come through to the records. -/
namespace AccessList

open Config Text

variable {s : Symbols} {r d x : Record} {old descriptor field : String} {kind : GroupKind} {lines acl : List String}

namespace Record

/-- The mark that the entry has for what its service brings. -/
def placeholder (r : Record) : String := "?" ++ r.protocol

def replace (r : Record) (old new : String) : Record :=
  let other (text : String) := if text = old then new else text
  { r with
    sourcePort := other r.sourcePort
    destinationPort := other r.destinationPort
    icmp := other r.icmp }

/-- A mark in the clauses of a record that is flattened. -/
def Shows (d : Record) (mark : String) : Prop :=
  d.sourcePort = mark ∨ d.destinationPort = mark ∨ d.icmp = Icmp.withCode mark

/-- The clauses of an entry of a service, each a group or the mark. -/
structure HoldsPlaces (s : Symbols) (r : Record) : Prop where
  sourcePort : r.sourcePort = r.placeholder ∨ s.hasGroup .port r.sourcePort = true
  destinationPort : r.destinationPort = r.placeholder ∨
    (s.hasGroup .port r.destinationPort || s.hasGroup .icmpType r.destinationPort) = true
  icmp : r.icmp = r.destinationPort

/-- A descriptor that leaves a text where it stands in the clauses of a record. -/
def IsLeft (r : Record) (text descriptor : String) : Prop :=
  (r.sourcePort = text ∨ r.destinationPort = text) ∧ (fields '/' descriptor).length ≠ 5 ∨
    r.icmp = text ∧ (fields '/' descriptor).length ≠ 3

end Record

/-- Whether the stage of services takes what the protocol of an entry stands for, or some of it, for a plain
protocol, and a value that it gives has no clauses in place of a mark. -/
def Symbols.KeepsPlaceholder (s : Symbols) (r : Record) : Prop :=
  ∃ p ∈ s.members .protocol r.protocol, (s.members .service p).head? = some p ∧
    ∃ descriptor ∈ s.members .service p, r.IsLeft r.placeholder descriptor

namespace Record

theorem withService_replace (replaced : ¬ r.IsLeft old descriptor) (new : String) :
    (r.replace old new).withService descriptor = r.withService descriptor := by
  obtain ⟨ports, icmp⟩ := not_or.mp replaced
  have noPorts (other : (fields '/' descriptor).length ≠ 5) : r.sourcePort ≠ old ∧ r.destinationPort ≠ old :=
    not_or.mp fun among => ports ⟨among, other⟩
  have noIcmp (other : (fields '/' descriptor).length ≠ 3) : r.icmp ≠ old := fun same => icmp ⟨same, other⟩
  unfold Record.withService
  split
  · next parts =>
    obtain ⟨source, destination⟩ := noPorts (by simp [parts])
    simp [replace, source, destination, noIcmp (by simp [parts])]
  · next parts =>
    obtain ⟨source, destination⟩ := noPorts (by simp [parts])
    simp [replace, source, destination]
  · next parts => simp [replace, noIcmp (by simp [parts])]
  · next one three five =>
    generalize fields '/' descriptor = parts at one three five noPorts noIcmp
    have other : parts.length ≠ 3 ∧ parts.length ≠ 5 := by
      constructor
      · rintro length
        match parts, length with
        | [protocol, type, code], _ => exact three protocol type code rfl
      · rintro length
        match parts, length with
        | [protocol, low, source, high, destination], _ => exact five protocol low source high destination rfl
    obtain ⟨source, destination⟩ := noPorts other.2
    simp [replace, source, destination, noIcmp other.1]

theorem shows_withService (left : r.IsLeft old descriptor) :
    (r.withService descriptor).sourcePort = old ∨ (r.withService descriptor).destinationPort = old ∨
      (r.withService descriptor).icmp = old := by
  unfold Record.withService
  rcases left with ⟨ports, other⟩ | ⟨icmp, other⟩
  · split
    · exact ports.elim .inl (.inr ∘ .inl)
    · exact ports.elim .inl (.inr ∘ .inl)
    · next parts => simp [parts] at other
    · exact ports.elim .inl (.inr ∘ .inl)
  · split
    · exact .inr (.inr icmp)
    · next parts => simp [parts] at other
    · exact .inr (.inr icmp)
    · exact .inr (.inr icmp)

end Record

/-- The stage of services drops the clauses of a record, unless the protocol is its own first value. -/
theorem expand_service_replace (r : Record) (old new : String)
    (replaced : (s.members .service r.protocol).head? = some r.protocol →
      ∀ descriptor ∈ s.members .service r.protocol, ¬ r.IsLeft old descriptor) :
    Stage.service.expand s (r.replace old new) = Stage.service.expand s r := by
  have protocol : (r.replace old new).protocol = r.protocol := rfl
  simp only [Stage.expand, protocol]
  refine List.map_congr_left fun descriptor member => ?_
  split
  · next plain => exact Record.withService_replace (replaced plain descriptor member) new
  · rfl

/-- A mark that no stage leaves makes no difference to the flattened records. -/
theorem flatten_replace (replaced : ¬ s.KeepsPlaceholder r) (new : String) :
    flatten s Stage.all [r.replace r.placeholder new] = flatten s Stage.all [r] := by
  -- The stages before that of services write the addresses and the protocol, and do not look at the clauses.
  rw [flatten_addresses, flatten_addresses]
  refine List.flatMap_congr fun source _ => List.flatMap_congr fun destination _ => ?_
  rw [flatten_cons, flatten_cons]
  simp only [Stage.expand]
  rw [flatten_map, flatten_map]
  refine List.flatMap_congr fun p member => ?_
  rw [flatten_cons, flatten_cons]
  refine congrArg _ ?_
  let y : Record := { r with source, destination, protocol := p }
  refine expand_service_replace y r.placeholder new fun plain descriptor among left => ?_
  exact replaced ⟨p, member, plain, descriptor, among, left⟩

/-- No group is empty, as only one is that refers to nothing but itself. -/
def Symbols.IsFilled (s : Symbols) : Prop := ∀ kind key, (s.groups kind).get? key ≠ some []

theorem Symbols.IsFilled.exists_mem (filled : s.IsFilled) (kind : GroupKind) (given : field ≠ "") :
    ∃ value, value ∈ s.members kind field := by
  apply List.exists_mem_of_ne_nil
  unfold Symbols.members
  rw [if_neg (by simpa using given)]
  split
  · simp
  · cases group : (s.groups kind).get? field with
    | none => simp
    | some members =>
      rintro rfl
      exact filled kind field group

/-- What a field is resolved to, a mark to itself. -/
theorem Symbols.IsFilled.exists_kept {mark : String} (filled : s.IsFilled) (given : field ≠ "")
    (unobjected : s.objects? kind = none) (free : s.hasGroup kind mark = false) :
    ∃ value ∈ s.members kind field, field = mark → value = mark := by
  by_cases same : field = mark
  · subst same
    have object : s.object? kind field = none := by simp [Symbols.object?, unobjected]
    exact ⟨field, by simp [members_self given object free], id⟩
  · obtain ⟨value, member⟩ := filled.exists_mem kind given
    exact ⟨value, member, fun marked => absurd marked same⟩

structure Record.HasClauses (r : Record) : Prop where
  sourcePort : r.sourcePort ≠ ""
  destinationPort : r.destinationPort ≠ ""
  icmp : r.icmp ≠ ""

theorem Record.HasClauses.withService (given : r.HasClauses) (descriptor : String) :
    (r.withService descriptor).HasClauses := by
  unfold Record.withService
  split
  · exact ⟨given.sourcePort, given.destinationPort, given.icmp⟩
  · exact ⟨given.sourcePort, given.destinationPort, by simp [toString]⟩
  · exact ⟨by simp [toString], by simp [toString], given.icmp⟩
  · exact ⟨given.sourcePort, given.destinationPort, given.icmp⟩

theorem exists_shows_last {mark : String} (filled : s.IsFilled) (given : x.HasClauses)
    (port : s.hasGroup .port mark = false) (icmpType : s.hasGroup .icmpType mark = false)
    (marked : x.sourcePort = mark ∨ x.destinationPort = mark ∨ x.icmp = mark) :
    ∃ d ∈ flatten s [.port, .icmpType] [x], d.Shows mark := by
  obtain ⟨low, inSource, lowKept⟩ := filled.exists_kept given.sourcePort rfl port
  obtain ⟨high, inDestination, highKept⟩ := filled.exists_kept given.destinationPort rfl port
  obtain ⟨type, inIcmp, typeKept⟩ := filled.exists_kept given.icmp rfl icmpType
  let ported : Record := { x with sourcePort := low, destinationPort := high }
  refine ⟨{ ported with icmp := Icmp.withCode type }, ?_, ?_⟩
  · refine mem_flatten_cons.mpr ⟨ported, ?_, mem_flatten_cons.mpr ⟨_, ?_, List.mem_singleton.mpr rfl⟩⟩
    · exact List.mem_flatMap.mpr ⟨low, inSource, List.mem_map.mpr ⟨high, inDestination, rfl⟩⟩
    · exact List.mem_map.mpr ⟨type, inIcmp, rfl⟩
  · exact marked.imp lowKept (Or.imp highKept fun same => congrArg Icmp.withCode (typeKept same))

/-- A mark that is left comes through all stages. -/
theorem exists_shows (filled : s.IsFilled) (source : r.source ≠ "") (destination : r.destination ≠ "")
    (given : r.HasClauses) (port : s.hasGroup .port r.placeholder = false)
    (icmpType : s.hasGroup .icmpType r.placeholder = false) (kept : s.KeepsPlaceholder r) :
    ∃ d ∈ flatten s Stage.all [r], d.Shows r.placeholder := by
  obtain ⟨p, inProtocol, plain, descriptor, inService, left⟩ := kept
  obtain ⟨a, inSource⟩ := filled.exists_mem .network source
  obtain ⟨b, inDestination⟩ := filled.exists_mem .network destination
  let addressed : Record := { r with source := a, destination := b }
  let named : Record := { addressed with protocol := p }
  have given' : named.HasClauses := ⟨given.sourcePort, given.destinationPort, given.icmp⟩
  have clauses : (named.withService descriptor).HasClauses := given'.withService descriptor
  have marked : (named.withService descriptor).sourcePort = r.placeholder ∨
      (named.withService descriptor).destinationPort = r.placeholder ∨
      (named.withService descriptor).icmp = r.placeholder := Record.shows_withService left
  obtain ⟨d, member, shows⟩ := exists_shows_last filled clauses port icmpType marked
  refine ⟨d, mem_flatten_cons.mpr ⟨addressed, ?_, mem_flatten_cons.mpr ⟨named, ?_,
    mem_flatten_cons.mpr ⟨named.withService descriptor, ?_, member⟩⟩⟩, shows⟩
  · exact List.mem_flatMap.mpr ⟨a, inSource, List.mem_map.mpr ⟨b, inDestination, rfl⟩⟩
  · exact List.mem_map.mpr ⟨p, inProtocol, rfl⟩
  · refine List.mem_map.mpr ⟨descriptor, inService, ?_⟩
    rw [if_pos plain]

namespace Entry

open Clause

theorem serviceGroup_value (isGroup : String → Bool) (service : String) (rest : List String) :
    (serviceGroup isGroup service rest).value = "?" ++ service ∨
      isGroup (serviceGroup isGroup service rest).value = true := by
  simp only [serviceGroup]
  split
  · next group => exact .inr group
  · exact .inl rfl

/-- An extended entry of a service holds the places of all its clauses. -/
theorem extended_holdsPlaces {tokens : List String} {number : Nat}
    (service : (s.traits (extended s tokens number).value.protocol).service = true) :
    (extended s tokens number).value.HoldsPlaces s := by
  simp only [extended, Noted.value_bind, Noted.value_pure] at service ⊢
  have traits := traits_of_service service
  simp only [sourcePort, trailer, traits, Traits.allowsPorts, Traits.isIcmp, Traits.hasPorts]
  exact ⟨serviceGroup_value _ _ _, serviceGroup_value _ _ _, rfl⟩

end Entry

theorem ne_empty_of_hasGroup (defined : (symbols lines).hasGroup kind field = true) : field ≠ "" := by
  rw [Symbols.hasGroup, groups_symbols, contains_tableOf] at defined
  obtain ⟨m, among, rfl⟩ := List.mem_map.mp defined
  obtain ⟨e, line, found⟩ := List.mem_filterMap.mp among
  obtain ⟨h, tokens, _, rfl, _, _, same, _⟩ := memberLine?_eq_some.mp found
  rw [← same]
  exact symbol_ne_empty line

theorem Record.HoldsPlaces.hasClauses (places : r.HoldsPlaces (symbols lines)) : r.HasClauses := by
  have mark : r.placeholder ≠ "" := by simp [Record.placeholder]
  have destinationPort : r.destinationPort ≠ "" := by
    rcases places.destinationPort with same | group
    · rwa [same]
    · exact (Bool.or_eq_true_iff.mp group).elim ne_empty_of_hasGroup ne_empty_of_hasGroup
  refine ⟨?_, destinationPort, by rwa [places.icmp]⟩
  rcases places.sourcePort with same | group
  · rwa [same]
  · exact ne_empty_of_hasGroup group

theorem clauses_of_entry (member : r ∈ (Listing.ofLines (symbols lines) acl).records)
    (service : ((symbols lines).traits r.protocol).service = true) :
    r.HasClauses ∧ (r.type = "extended" → r.HoldsPlaces (symbols lines)) := by
  obtain ⟨line, _, number, _, _, read⟩ := Listing.exists_line member
  cases read with
  | standard type =>
    have given : Field.notApplicable ≠ "" := by decide
    refine ⟨⟨given, given, given⟩, fun extended => ?_⟩
    exact absurd (type.symm.trans extended) (by decide)
  | extended =>
    have places := Entry.extended_holdsPlaces service
    exact ⟨places.hasClauses, fun _ => places⟩

/-- The flattened records of an entry of a service hang on its mark only where the stage of services takes the
service for a plain protocol: where the protocol, or a member of the protocol group that it names as well, is the
first of its own values. Then the mark comes through to the records, if the entry has its addresses, no group is
empty and none has the mark for its alias. -/
theorem service_placeholders (lines acl : List String) :
    let s := symbols lines
    let flattened (r : Record) := flatten s ({} : Switches).enabled [r]
    ∀ r ∈ (Listing.ofLines s acl).records, (s.traits r.protocol).service = true →
      (r.type = "extended" → r.HoldsPlaces s) ∧
      (¬ s.KeepsPlaceholder r → ∀ text, flattened (r.replace r.placeholder text) = flattened r) ∧
      (s.KeepsPlaceholder r → r.source ≠ "" → r.destination ≠ "" → s.IsFilled →
        s.hasGroup .port r.placeholder = false → s.hasGroup .icmpType r.placeholder = false →
        ∃ d ∈ flattened r, d.Shows r.placeholder) := by
  intro s flattened r member service
  have all : ({} : Switches).enabled = Stage.all := by decide
  obtain ⟨clauses, places⟩ := clauses_of_entry member service
  simp only [flattened, all]
  refine ⟨places, flatten_replace, fun kept source destination filled port icmpType => ?_⟩
  exact exists_shows filled source destination clauses port icmpType kept

/-- A service object, and a group of services that has its own alias for its first member. -/
theorem service_placeholders_mail :
    let lines := ["object service web", " service tcp destination eq https", "object-group service mail",
      " service-object object mail", " service-object tcp destination eq smtp"]
    let s := symbols lines
    let acl := ["access-list inside extended permit object web any any",
      "access-list inside extended permit object-group mail any any"]
    let entry (number : Int) (service : String) : Record := {
      list := "inside", line := number, type := "extended", action := "permit", protocol := service
      source := "0/0", sourcePort := "?" ++ service, destination := "0/0"
      destinationPort := "?" ++ service, icmp := "?" ++ service }
    (Listing.ofLines s acl).records = [entry 1 "web", entry 2 "mail"] ∧
      ¬ s.KeepsPlaceholder (entry 1 "web") ∧ s.KeepsPlaceholder (entry 2 "mail") ∧ s.IsFilled ∧
      flatten s ({} : Switches).enabled [(entry 1 "web").replace "?web" "-/-"] =
        flatten s ({} : Switches).enabled [entry 1 "web"] ∧
      ∃ d ∈ flatten s ({} : Switches).enabled [entry 2 "mail"], d.Shows "?mail" := by
  intro lines s acl entry
  have tables : s = { serviceObjects := ⟨[("web", "6/eq/any/eq/443")]⟩
                      serviceGroups := ⟨[("mail", ["mail", "6/eq/any/eq/25"])]⟩ } := by decide +kernel
  have read : (Listing.ofLines s acl).records = [entry 1 "web", entry 2 "mail"] := by
    rw [tables]
    decide +kernel
  have web : ¬ s.KeepsPlaceholder (entry 1 "web") := by
    have protocols : s.members .protocol "web" = ["web"] := by rw [tables]; decide +kernel
    have services : s.members .service "web" = ["6/eq/any/eq/443"] := by rw [tables]; decide +kernel
    rintro ⟨p, inProtocol, plain, _⟩
    obtain rfl : p = "web" := by simpa [entry, protocols] using inProtocol
    simp [services] at plain
  have mail : s.KeepsPlaceholder (entry 2 "mail") := by
    have protocols : s.members .protocol "mail" = ["mail"] := by rw [tables]; decide +kernel
    have services : s.members .service "mail" = ["mail", "6/eq/any/eq/25"] := by rw [tables]; decide +kernel
    refine ⟨"mail", by simp [entry, protocols], by simp [services], "mail", by simp [services], ?_⟩
    exact .inl ⟨.inl rfl, by decide⟩
  have filled : s.IsFilled := by
    intro kind key
    rw [tables]
    cases kind <;> simp [Symbols.groups, Table.get?, List.lookup_cons]
    split <;> simp
  have services : (s.traits "web").service = true ∧ (s.traits "mail").service = true := by
    rw [tables]
    decide
  have unaliased : s.hasGroup .port "?mail" = false ∧ s.hasGroup .icmpType "?mail" = false := by
    rw [tables]
    decide
  have first := service_placeholders lines acl (entry 1 "web") (by rw [read]; simp) services.1
  have second := service_placeholders lines acl (entry 2 "mail") (by rw [read]; simp) services.2
  exact ⟨read, web, mail, filled, first.2.1 web "-/-",
    second.2.2 mail (by decide) (by decide) filled unaliased.1 unaliased.2⟩

/-- Marks come through to the records of a group of services that has its own alias for its first member, of a
service object without a value, and of a service object that a protocol group has the same alias as. -/
theorem placeholder_comes_through :
    let clauses (lines : List String) (operand : String) : List (String × String × String × String) :=
      let s := symbols lines
      let acl := ["access-list inside extended permit " ++ operand ++ " any any"]
      (flatten s ({} : Switches).enabled (Listing.ofLines s acl).records).map fun d =>
        (d.protocol, d.sourcePort, d.destinationPort, d.icmp)
    let mail := ["object-group service mail", " service-object object mail",
      " service-object tcp destination eq smtp"]
    let web := ["object service web", " service"]
    let dns := ["object-group protocol dns", " protocol-object tcp", "object service dns",
      " service udp destination eq domain"]
    ((symbols mail).traits "mail").service = true ∧
      clauses mail "object-group mail" =
        [("mail", "?mail", "?mail", "?mail/any"), ("6", "eq/any", "eq/25", "?mail/any")] ∧
      ((symbols web).traits "web").service = true ∧
      clauses web "web" = [("web", "?web", "?web", "?web/any")] ∧
      ((symbols dns).traits "dns").service = true ∧
      clauses dns "object dns" = [("6", "?dns", "?dns", "?dns/any")] := by
  decide +kernel

end AccessList
