import AccessList.Entry.Listing
import AccessList.Proofs.Config.Translation
import AccessList.Proofs.Flatten.Distribution

/-! Entries of a configuration whose network objects have lines of address translation. Such a line bears on
an entry only through an object that ends with it. -/
namespace AccessList

open Config

variable {lines line rest tokens acl : List String} {field p : String} {number : Nat} {r : Record}

/-- An address field that no line of address translation bears on, neither by the object that it names nor,
where it names none, by a member of the group that it names. -/
structure IsUntranslated (lines : List String) (field : String) : Prop where
  object : endsInTranslation lines field = false
  group : (symbols lines).object? .network field = none → ¬ TakesTranslated lines field

namespace Entry

theorem protocol_withoutTranslations :
    protocol (symbols (withoutTranslations lines)) line rest = protocol (symbols lines) line rest := by
  have objects := objects_withoutTranslations (by decide : GroupKind.service ≠ .network) lines
  simp only [protocol, hasGroup_withoutTranslations, objects]

theorem address_withoutTranslations :
    address (symbols (withoutTranslations lines)) line rest = address (symbols lines) line rest := by
  simp only [address, names_symbols_withoutTranslations]

theorem definedAddress_withoutTranslations
    (plain : endsInTranslation lines (definedAddress (symbols lines) line rest).value.value = false) :
    definedAddress (symbols (withoutTranslations lines)) line rest =
      definedAddress (symbols lines) line rest := by
  simp only [definedAddress, hasGroup_withoutTranslations, address_withoutTranslations] at plain ⊢
  split
  · rfl
  next noGroup =>
  split
  · next object =>
    have same : (symbols (withoutTranslations lines)).object? .network (Clause.token (rest.drop 1)) =
        (symbols lines).object? .network (Clause.token (rest.drop 1)) := by
      refine object?_withoutTranslations ?_
      by_contra ends
      rw [Bool.not_eq_false] at ends
      have defined := networkObjects_translated ends
      have given : ((symbols lines).object? .network (Clause.token (rest.drop 1))).isSome = true := by
        simp only [Symbols.object?, Symbols.objects?, Option.bind_some, defined]
        decide
      rw [if_neg noGroup, if_pos object, given] at plain
      exact absurd (ends.symm.trans plain) (by decide)
    rw [same]
  · rfl

theorem traits_withoutTranslations :
    (symbols (withoutTranslations lines)).traits p = (symbols lines).traits p := by
  have objects : (symbols (withoutTranslations lines)).serviceObjects.contains p =
      (symbols lines).serviceObjects.contains p := by
    simp only [Table.contains, serviceObjects_withoutTranslations]
  have services : (symbols (withoutTranslations lines)).serviceGroups = (symbols lines).serviceGroups :=
    groups_withoutTranslations (by decide : GroupKind.service ≠ .network) lines
  have protocols : (symbols (withoutTranslations lines)).protocolGroups = (symbols lines).protocolGroups :=
    groups_withoutTranslations (by decide : GroupKind.protocol ≠ .network) lines
  simp only [Symbols.traits, objects, services, protocols]

theorem sourcePort_withoutTranslations :
    sourcePort (symbols (withoutTranslations lines)) p line rest = sourcePort (symbols lines) p line rest := by
  simp only [sourcePort, traits_withoutTranslations, port, portOrGroup, hasGroup_withoutTranslations]

theorem trailer_withoutTranslations :
    trailer (symbols (withoutTranslations lines)) p line rest = trailer (symbols lines) p line rest := by
  simp only [trailer, traits_withoutTranslations, port, portOrGroup, definedIcmp, hasGroup_withoutTranslations]

theorem extended_withoutTranslations
    (source : endsInTranslation lines (extended (symbols lines) tokens number).value.source = false)
    (destination : endsInTranslation lines (extended (symbols lines) tokens number).value.destination = false) :
    (extended (symbols (withoutTranslations lines)) tokens number).value =
      (extended (symbols lines) tokens number).value := by
  simp only [extended, Noted.value_bind, Noted.value_pure] at source destination ⊢
  simp only [protocol_withoutTranslations, definedAddress_withoutTranslations source,
    sourcePort_withoutTranslations, definedAddress_withoutTranslations destination,
    trailer_withoutTranslations]

theorem standard_withoutTranslations :
    standard (symbols (withoutTranslations lines)) tokens number = standard (symbols lines) tokens number := by
  simp only [standard, address_withoutTranslations]

end Entry

namespace Listing

/-- Readings of the same lines that agree on entries without a bearing on address translation. -/
structure Alike (lines : List String) (p p' : Progress) : Prop where
  count : p'.count = p.count
  records : List.Forall₂ (fun r r' => IsUntranslated lines r.source → IsUntranslated lines r.destination → r' = r)
    p.records.toList p'.records.toList

theorem Alike.readLine {q q' : Progress} (alike : Alike lines q q') (line : String) :
    Alike lines (readLine (symbols lines) q line).value
      (readLine (symbols (withoutTranslations lines)) q' line).value := by
  obtain ⟨count, records⟩ := alike
  simp only [Listing.readLine, count]
  split
  · exact ⟨count, records⟩
  split
  · refine ⟨rfl, ?_⟩
    simp only [Noted.value_bind, Noted.value_pure, Entry.standard_withoutTranslations, Array.toList_push]
    exact List.rel_append records (.cons (fun _ _ => rfl) .nil)
  · refine ⟨rfl, ?_⟩
    simp only [Noted.value_bind, Noted.value_pure, Array.toList_push]
    refine List.rel_append records (.cons (fun source destination => ?_) .nil)
    exact Entry.extended_withoutTranslations source.object destination.object
  · exact ⟨rfl, records⟩
  · exact ⟨rfl, records⟩

theorem ofLines_withoutTranslations (lines acl : List String) :
    List.Forall₂ (fun r r' => IsUntranslated lines r.source → IsUntranslated lines r.destination → r' = r)
      (ofLines (symbols lines) acl).records (ofLines (symbols (withoutTranslations lines)) acl).records := by
  have go (p p' : Progress) (alike : Alike lines p p') :
      Alike lines (acl.foldl (fun p line => (readLine (symbols lines) p line).value) p)
        (acl.foldl (fun p line => (readLine (symbols (withoutTranslations lines)) p line).value) p') := by
    induction acl generalizing p p' with
    | nil => exact alike
    | cons line acl ih => exact ih _ _ (alike.readLine line)
  simp only [ofLines, Noted.value_sweep]
  exact (go {} {} ⟨rfl, .nil⟩).records

end Listing

theorem members_withoutTranslations (plain : IsUntranslated lines field) :
    (symbols (withoutTranslations lines)).members .network field = (symbols lines).members .network field := by
  rw [Symbols.members, Symbols.members, object?_withoutTranslations plain.object]
  cases object : (symbols lines).object? .network field with
  | some value => rfl
  | none =>
    have groups : ((symbols (withoutTranslations lines)).groups .network).get? field =
        ((symbols lines).groups .network).get? field := networkGroups_withoutTranslations (plain.group object)
    simp only [groups]

/-- No later stage looks at networks. -/
theorem expand_withoutTranslations {stage : Stage} (later : stage ≠ .network) (lines : List String) :
    stage.expand (symbols (withoutTranslations lines)) = stage.expand (symbols lines) := by
  have members {kind : GroupKind} (other : kind ≠ .network) (field : String) :
      (symbols (withoutTranslations lines)).members kind field = (symbols lines).members kind field := by
    simp only [Symbols.members, groups_withoutTranslations other, objects_withoutTranslations other]
  funext r
  cases stage with
  | network => exact absurd rfl later
  | protocol => simp only [Stage.expand, members (by decide : GroupKind.protocol ≠ .network)]
  | service => simp only [Stage.expand, members (by decide : GroupKind.service ≠ .network)]
  | port => simp only [Stage.expand, members (by decide : GroupKind.port ≠ .network)]
  | icmpType => simp only [Stage.expand, members (by decide : GroupKind.icmpType ≠ .network)]

theorem flatten_later_withoutTranslations {stages : List Stage} (without : .network ∉ stages)
    (lines : List String) (records : List Record) :
    flatten (symbols (withoutTranslations lines)) stages records = flatten (symbols lines) stages records := by
  induction stages generalizing records with
  | nil => rfl
  | cons stage stages ih =>
    obtain ⟨other, others⟩ : .network ≠ stage ∧ .network ∉ stages := by simpa using without
    have first : Stage.expandAll (symbols (withoutTranslations lines)) records stage =
        Stage.expandAll (symbols lines) records stage := by
      rw [Stage.expandAll, expand_withoutTranslations (Ne.symm other), Stage.expandAll]
    calc flatten (symbols (withoutTranslations lines)) (stage :: stages) records
      _ = flatten (symbols (withoutTranslations lines)) stages
            (Stage.expandAll (symbols (withoutTranslations lines)) records stage) := rfl
      _ = flatten (symbols lines) (stage :: stages) records := by rw [first, ih others]; rfl

theorem flatten_withoutTranslations (source : IsUntranslated lines r.source)
    (destination : IsUntranslated lines r.destination) :
    flatten (symbols (withoutTranslations lines)) Stage.all [r] = flatten (symbols lines) Stage.all [r] := by
  have later : .network ∉ [Stage.protocol, .service, .port, .icmpType] := by decide
  rw [flatten_addresses, flatten_addresses, members_withoutTranslations source,
    members_withoutTranslations destination]
  simp only [flatten_later_withoutTranslations later]

/-- Without the lines of address translation, objects that end with another line keep their values, and those
that end with such a line, which are undefined, have the value of their last other line. Entries that no such
line bears on are read alike and give the same flattened records. -/
theorem translations_immaterial (lines acl : List String) :
    let plain := withoutTranslations lines
    (∀ symbol, endsInTranslation lines symbol = false →
      (symbols plain).networkObjects.get? symbol = (symbols lines).networkObjects.get? symbol) ∧
    (∀ symbol, endsInTranslation lines symbol = true →
      (symbols lines).networkObjects.get? symbol = some Field.undefined ∧
        (symbols plain).networkObjects.get? symbol =
          ((networkObjectBody symbol lines).filter (Clause.token · ≠ "nat")).getLast?.map networkValue) ∧
    List.Forall₂ (fun r r' => IsUntranslated lines r.source → IsUntranslated lines r.destination →
        r' = r ∧ flatten (symbols plain) ({} : Switches).enabled [r'] =
          flatten (symbols lines) ({} : Switches).enabled [r])
      (Listing.ofLines (symbols lines) acl).records (Listing.ofLines (symbols plain) acl).records := by
  have all : ({} : Switches).enabled = Stage.all := by decide
  refine ⟨fun symbol => networkObjects_withoutTranslations, fun symbol ends =>
    ⟨networkObjects_translated ends, networkObjects_untranslated lines symbol⟩, ?_⟩
  rw [all]
  refine (Listing.ofLines_withoutTranslations lines acl).imp fun r r' same source destination => ?_
  obtain rfl := same source destination
  exact ⟨rfl, flatten_withoutTranslations source destination⟩

/-- An object with its address after the translation, one with the translation last, and a group. -/
theorem translations_immaterial_servers :
    let lines := ["object network web", " nat (inside,outside) static 192.0.2.1", " host 10.0.0.1",
      "object network mail", " host 10.0.0.2", " nat (inside,outside) static 192.0.2.2",
      "object-group network servers", " network-object object web", " network-object host 10.0.0.3"]
    let acl := ["access-list inside extended permit ip object web object-group servers"]
    let s := symbols lines
    let plain := symbols (withoutTranslations lines)
    endsInTranslation lines "web" = false ∧ endsInTranslation lines "mail" = true ∧
      IsUntranslated lines "web" ∧ IsUntranslated lines "servers" ∧
      plain.networkObjects.get? "web" = s.networkObjects.get? "web" ∧
      s.networkObjects.get? "mail" = some Field.undefined ∧
      flatten plain ({} : Switches).enabled (Listing.ofLines plain acl).records =
        flatten s ({} : Switches).enabled (Listing.ofLines s acl).records := by
  intro lines acl s plain
  -- the configuration is read once, and all else is told from its sections and its tables
  let web : Header := ⟨"object", "network", "web", []⟩
  let mail : Header := ⟨"object", "network", "mail", []⟩
  let servers : Header := ⟨"object-group", "network", "servers", []⟩
  have objects : sections "object" lines = [.header web, .body web ["nat", "(inside,outside)", "static", "192.0.2.1"],
      .body web ["host", "10.0.0.1"], .header mail, .body mail ["host", "10.0.0.2"],
      .body mail ["nat", "(inside,outside)", "static", "192.0.2.2"]] := by decide +kernel
  have groups : sections "object-group" lines = [.header servers,
      .body servers ["network-object", "object", "web"],
      .body servers ["network-object", "host", "10.0.0.3"]] := by decide +kernel
  have tables : s = { networkObjects := ⟨[("web", "10.0.0.1/32"), ("mail", "undefined")]⟩
                      networkGroups := ⟨[("servers", ["10.0.0.1/32", "10.0.0.3/32"])]⟩ } := by
    have unnamed : names lines = {} := by decide +kernel
    rw [show s = symbols lines from rfl, symbols_eq, objects, groups, unnamed]
    decide +kernel
  have last : endsInTranslation lines "web" = false := by
    rw [endsInTranslation, networkObjectBody, objects]
    decide
  have first : endsInTranslation lines "mail" = true := by
    rw [endsInTranslation, networkObjectBody, objects]
    decide
  have unended : endsInTranslation lines "servers" = false := by
    rw [endsInTranslation, networkObjectBody, objects]
    decide
  have untaken (symbol : String) : ¬ TakesTranslated lines symbol := by
    have members : memberLines .network lines =
        [⟨"servers", .values ["10.0.0.1/32"]⟩, ⟨"servers", .values ["10.0.0.3/32"]⟩] := by
      rw [memberLines, groups, show symbols lines = _ from tables]
      decide +kernel
    intro takes
    induction takes with
    | object line _ _ refers ends =>
      rw [groups] at line
      rcases (by simpa using line) with ⟨_, rfl⟩ | ⟨_, rfl⟩
      · exact absurd (last.symm.trans ends) (by decide)
      · exact absurd refers (by decide)
    | group line => simp [members] at line
  have plainWeb : IsUntranslated lines "web" := ⟨last, fun _ => untaken "web"⟩
  have plainServers : IsUntranslated lines "servers" := ⟨unended, fun _ => untaken "servers"⟩
  let r : Record := {
    list := "inside", line := 1, type := "extended", action := "permit", protocol := "ip", source := "web"
    sourcePort := "-/-", destination := "servers", destinationPort := "-/-", icmp := "-/-" }
  have read : (Listing.ofLines s acl).records = [r] := by
    rw [tables]
    decide +kernel
  obtain ⟨kept, lost, alike⟩ := translations_immaterial lines acl
  refine ⟨last, first, plainWeb, plainServers, kept "web" last, (lost "mail" first).1, ?_⟩
  change List.Forall₂ _ (Listing.ofLines s acl).records (Listing.ofLines plain acl).records at alike
  rw [read] at alike ⊢
  obtain ⟨r', others, same, none, whole⟩ := List.forall₂_cons_left_iff.mp alike
  obtain rfl := List.forall₂_nil_left_iff.mp none
  rw [whole]
  exact (same plainWeb plainServers).2

/-- An object loses its address by a translation after it, and so do the entries that refer to it. -/
theorem translation_undefines :
    let lines := ["object network web", " host 10.0.0.1", " nat (inside,outside) static 192.0.2.1"]
    let acl := ["access-list inside extended permit ip object web any"]
    let s := symbols lines
    let plain := symbols (withoutTranslations lines)
    ["host", "10.0.0.1"] ∈ networkObjectBody "web" lines ∧
      s.networkObjects.get? "web" = some "undefined" ∧
      plain.networkObjects.get? "web" = some "10.0.0.1/32" ∧
      flatten plain ({} : Switches).enabled (Listing.ofLines plain acl).records ≠
        flatten s ({} : Switches).enabled (Listing.ofLines s acl).records := by
  intro lines acl s plain
  exact ⟨by decide +kernel, by decide +kernel, by decide +kernel, by decide +kernel⟩

end AccessList
