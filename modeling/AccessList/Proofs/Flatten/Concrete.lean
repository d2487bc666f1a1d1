import AccessList.Proofs.Flatten.Distribution
import AccessList.Proofs.Service.Descriptor

/-! What flattening comes to. Every stage settles the fields that it resolves, no later stage unsettles
them, and a stage leaves a record with settled fields as it is. So flattened records hold no aliases, and
to flatten them again changes nothing. -/
namespace AccessList

open Text

variable {s : Symbols} {kind other : GroupKind} {field value key descriptor : String} {r d : Record}
  {records : List Record} {stage earlier later : Stage} {rest : List Stage}

/-- What comes before the first slash of a text, or all of it if it has none. -/
def front (text : String) : String := (fields '/' text).headD ""

namespace Symbols

/-- Whether a text is a key of the tables in which fields of a kind are resolved. -/
def isKey (s : Symbols) (kind : GroupKind) (text : String) : Bool :=
  (s.objects? kind).any (·.contains text) || s.hasGroup kind text

/-- The values of the objects and the members of the groups. -/
inductive IsLeaf (s : Symbols) : String → Prop where
  | object {kind objects key value} (table : s.objects? kind = some objects)
      (found : objects.get? key = some value) : IsLeaf s value
  | member {kind key members value} (found : (s.groups kind).get? key = some members)
      (among : value ∈ members) : IsLeaf s value

/-- A text that stands for itself wherever it is resolved as a field of a kind. -/
structure IsSettled (s : Symbols) (kind : GroupKind) (field : String) : Prop where
  given : field ≠ ""
  free : s.isKey kind field = false

/-- No key looks like what may come in its place. -/
structure IsLayered (s : Symbols) : Prop where
  slash : ∀ kind key, s.isKey kind key = true → '/' ∉ key.toList
  leaf : ∀ text, s.IsLeaf text → text ≠ "" ∧ ∀ kind, s.isKey kind text = false
  front : ∀ text, s.IsLeaf text → front text ≠ "" ∧ ∀ kind, s.isKey kind (front text) = false

/-- A text that can stand in the field of a protocol after the stage of protocols. -/
def IsProtocol (s : Symbols) (text : String) : Prop := '/' ∉ text.toList ∨ s.IsLeaf text

end Symbols

/-- A descriptor that sets nothing but the protocol. -/
def Service.IsBare (descriptor : String) : Prop :=
  ∀ r : Record, r.withService descriptor = { r with protocol := descriptor }

/-- What a stage leaves in the fields that it resolves. -/
def Stage.Settles (s : Symbols) : Stage → Record → Prop
  | network, r => s.IsSettled .network r.source ∧ s.IsSettled .network r.destination
  | protocol, r => s.IsSettled .protocol r.protocol
  | service, r => s.IsSettled .service r.protocol ∧ Service.IsBare r.protocol
  | port, r => s.IsSettled .port r.sourcePort ∧ s.IsSettled .port r.destinationPort
  | icmpType, r => s.IsSettled .icmpType r.icmp ∧ '/' ∈ r.icmp.toList

theorem GroupKind.mem_all (kind : GroupKind) : kind ∈ GroupKind.all := by cases kind <;> decide

theorem free_front (text : String) : '/' ∉ (front text).toList := by
  cases parts : fields '/' text with
  | nil => simp [front, parts]
  | cons first others =>
    have among : first ∈ fields '/' text := by simp [parts]
    simpa [front, parts] using free_of_mem_fields among

namespace Symbols

theorem IsSettled.members (settled : s.IsSettled kind field) : s.members kind field = [field] := by
  obtain ⟨object, group⟩ := Bool.or_eq_false_iff.mp settled.free
  apply members_self settled.given _ group
  cases table : s.objects? kind with
  | none => simp [object?, table]
  | some objects =>
    have absent : objects.get? field = none := by simpa [table, Table.contains] using object
    simp [object?, table, absent]

theorem leaf_or_settled (layered : s.IsLayered) (member : value ∈ s.members kind field) :
    s.IsLeaf value ∨ value = field ∧ s.IsSettled kind field := by
  have given : field ≠ "" := by
    rintro rfl
    simp [members] at member
  cases object : s.object? kind field with
  | some content =>
    rw [members_object given object, List.mem_singleton] at member
    obtain ⟨objects, table, found⟩ := Option.bind_eq_some_iff.mp object
    obtain ⟨found, _⟩ := Option.filter_eq_some_iff.mp found
    rw [member]
    exact .inl (.object table found)
  | none =>
    cases group : (s.groups kind).get? field with
    | some values =>
      rw [members_group given object group] at member
      exact .inl (.member group member)
    | none =>
      have ungrouped : s.hasGroup kind field = false := by simp [hasGroup, Table.contains, group]
      rw [members_self given object ungrouped, List.mem_singleton] at member
      refine .inr ⟨member, given, ?_⟩
      rw [isKey, ungrouped, Bool.or_false]
      cases table : s.objects? kind with
      | none => rfl
      | some objects =>
        cases found : objects.get? field with
        | none => simp [Table.contains, found]
        | some content =>
          -- An object without a value would be passed over.
          obtain ⟨full, _⟩ := layered.leaf content (.object table found)
          simp [object?, table, found, full] at object

theorem IsLayered.settled_leaf (layered : s.IsLayered) (leaf : s.IsLeaf value) : s.IsSettled kind value :=
  ⟨(layered.leaf value leaf).1, (layered.leaf value leaf).2 kind⟩

theorem IsLayered.settled_front (layered : s.IsLayered) (leaf : s.IsLeaf value) :
    s.IsSettled kind (AccessList.front value) :=
  ⟨(layered.front value leaf).1, (layered.front value leaf).2 kind⟩

theorem IsLayered.settled_slash (layered : s.IsLayered) (slash : '/' ∈ field.toList) :
    s.IsSettled kind field := by
  constructor
  · rintro rfl
    simp at slash
  · rw [← Bool.not_eq_true]
    intro key
    exact layered.slash kind field key slash

def keys (s : Symbols) : List String :=
  s.networkObjects.entries.map (·.1) ++ s.serviceObjects.entries.map (·.1) ++
    GroupKind.all.flatMap fun kind => (s.groups kind).entries.map (·.1)

def leaves (s : Symbols) : List String :=
  s.networkObjects.entries.map (·.2) ++ s.serviceObjects.entries.map (·.2) ++
    GroupKind.all.flatMap fun kind => (s.groups kind).entries.flatMap (·.2)

theorem key_of_contains {α : Type} {t : Table α} (contained : t.contains key = true) :
    key ∈ t.entries.map (·.1) := by
  obtain ⟨value, found⟩ := Option.isSome_iff_exists.mp contained
  exact List.mem_map_of_mem (Entry.mem_of_lookup found)

theorem mem_keys (defined : s.isKey kind key = true) : key ∈ s.keys := by
  simp only [keys, List.mem_append, List.mem_flatMap]
  rcases Bool.or_eq_true_iff.mp defined with object | group
  · left
    cases kind with
    | network => exact .inl (key_of_contains (by simpa [objects?] using object))
    | service => exact .inr (key_of_contains (by simpa [objects?] using object))
    | port | protocol | icmpType => simp [objects?] at object
  · exact .inr ⟨kind, kind.mem_all, key_of_contains group⟩

theorem mem_leaves (leaf : s.IsLeaf value) : value ∈ s.leaves := by
  simp only [leaves, List.mem_append, List.mem_flatMap]
  cases leaf with
  | @object kind objects key value table found =>
    have entry : value ∈ objects.entries.map (·.2) := List.mem_map_of_mem (Entry.mem_of_lookup found)
    left
    cases kind with
    | network =>
      obtain rfl := Option.some.inj table
      exact .inl entry
    | service =>
      obtain rfl := Option.some.inj table
      exact .inr entry
    | port | protocol | icmpType => cases table
  | @member kind key members value found among =>
    exact .inr ⟨kind, kind.mem_all, _, Entry.mem_of_lookup found, among⟩

theorem isLayered_of_entries (slash : ∀ key ∈ s.keys, '/' ∉ key.toList)
    (leaf : ∀ text ∈ s.leaves, text ≠ "" ∧ text ∉ s.keys)
    (front : ∀ text ∈ s.leaves, AccessList.front text ≠ "" ∧ AccessList.front text ∉ s.keys) :
    s.IsLayered := by
  have apart {text : String} (other : text ∉ s.keys) (kind : GroupKind) : s.isKey kind text = false :=
    Bool.eq_false_iff.mpr fun defined => other (mem_keys defined)
  constructor
  · intro kind key defined
    exact slash key (mem_keys defined)
  · intro text reached
    obtain ⟨given, other⟩ := leaf text (mem_leaves reached)
    exact ⟨given, apart other⟩
  · intro text reached
    obtain ⟨given, other⟩ := front text (mem_leaves reached)
    exact ⟨given, apart other⟩

theorem settled_of_mem (layered : s.IsLayered) (member : value ∈ s.members kind field) :
    s.IsSettled kind value := by
  rcases leaf_or_settled layered member with leaf | ⟨rfl, settled⟩
  · exact layered.settled_leaf leaf
  · exact settled

theorem IsSettled.of_mem (layered : s.IsLayered) (member : value ∈ s.members kind field)
    (settled : s.IsSettled other field) : s.IsSettled other value := by
  rcases leaf_or_settled layered member with leaf | ⟨rfl, _⟩
  · exact layered.settled_leaf leaf
  · exact settled

theorem IsProtocol.of_mem (layered : s.IsLayered) (member : value ∈ s.members kind field)
    (protocol : s.IsProtocol field) : s.IsProtocol value := by
  rcases leaf_or_settled layered member with leaf | ⟨rfl, _⟩
  · exact .inr leaf
  · exact protocol

end Symbols

namespace Service

theorem isBare_of_free (free : '/' ∉ descriptor.toList) : IsBare descriptor :=
  fun r => withService_protocol r free

theorem protocol_withService (r : Record) (descriptor : String) :
    (r.withService descriptor).protocol = descriptor ∧ IsBare descriptor ∨
      (r.withService descriptor).protocol = front descriptor := by
  unfold IsBare Record.withService front
  split
  · next parts => exact .inr (by simp [parts])
  · next parts => exact .inr (by simp [parts])
  · next parts => exact .inr (by simp [parts])
  · exact .inl ⟨rfl, fun _ => rfl⟩

theorem addresses_withService (r : Record) (descriptor : String) :
    (r.withService descriptor).source = r.source ∧
      (r.withService descriptor).destination = r.destination := by
  unfold Record.withService
  split <;> exact ⟨rfl, rfl⟩

theorem settled_withService (layered : s.IsLayered) (r : Record) (protocol : s.IsProtocol descriptor)
    (settled : s.IsSettled kind descriptor) :
    s.IsSettled kind (r.withService descriptor).protocol ∧ IsBare (r.withService descriptor).protocol ∧
      s.IsProtocol (r.withService descriptor).protocol := by
  rcases protocol_withService r descriptor with ⟨whole, bare⟩ | before
  · rw [whole]
    exact ⟨settled, bare, protocol⟩
  · rw [before]
    refine ⟨?_, isBare_of_free (free_front descriptor), .inl (free_front descriptor)⟩
    rcases protocol with free | leaf
    · have all : front descriptor = descriptor := by simp [front, fields_eq_singleton free]
      rw [all]
      exact settled
    · exact layered.settled_front leaf

end Service

namespace Stage

theorem Settles.expand (settled : stage.Settles s r) : stage.expand s r = [r] := by
  cases stage with
  | network => simp [Stage.expand, settled.1.members, settled.2.members]
  | protocol =>
    have members : s.members .protocol r.protocol = [r.protocol] := Symbols.IsSettled.members settled
    simp [Stage.expand, members]
  | service => simp [Stage.expand, settled.1.members, settled.2 r]
  | port => simp [Stage.expand, settled.1.members, settled.2.members]
  | icmpType => simp [Stage.expand, settled.1.members, Icmp.withCode, has_iff.mpr settled.2]

/-- What a stage may make of a record, one case for each stage. -/
inductive Makes (s : Symbols) (r : Record) : Stage → Record → Prop where
  | network {source destination} (inSource : source ∈ s.members .network r.source)
      (inDestination : destination ∈ s.members .network r.destination) :
      Makes s r .network { r with source, destination }
  | protocol {protocol} (member : protocol ∈ s.members .protocol r.protocol) :
      Makes s r .protocol { r with protocol }
  | service {descriptor base} (member : descriptor ∈ s.members .service r.protocol)
      (cleared : base = r ∨ base = r.withoutClauses) : Makes s r .service (base.withService descriptor)
  | port {sourcePort destinationPort} (inSource : sourcePort ∈ s.members .port r.sourcePort)
      (inDestination : destinationPort ∈ s.members .port r.destinationPort) :
      Makes s r .port { r with sourcePort, destinationPort }
  | icmpType {icmp} (member : icmp ∈ s.members .icmpType r.icmp) :
      Makes s r .icmpType { r with icmp := Icmp.withCode icmp }

theorem makes_of_mem (member : d ∈ stage.expand s r) : Makes s r stage d := by
  cases stage with
  | network =>
    obtain ⟨source, inSource, made⟩ := List.mem_flatMap.mp member
    obtain ⟨destination, inDestination, rfl⟩ := List.mem_map.mp made
    exact .network inSource inDestination
  | protocol =>
    obtain ⟨protocol, among, rfl⟩ := List.mem_map.mp member
    exact .protocol among
  | service =>
    obtain ⟨descriptor, among, rfl⟩ := List.mem_map.mp member
    refine .service among ?_
    split
    · exact .inl rfl
    · exact .inr rfl
  | port =>
    obtain ⟨sourcePort, inSource, made⟩ := List.mem_flatMap.mp member
    obtain ⟨destinationPort, inDestination, rfl⟩ := List.mem_map.mp made
    exact .port inSource inDestination
  | icmpType =>
    obtain ⟨icmp, among, rfl⟩ := List.mem_map.mp member
    exact .icmpType among

/-- Each stage settles its fields. -/
theorem Makes.settles (layered : s.IsLayered) (protocol : s.IsProtocol r.protocol)
    (made : Makes s r stage d) : stage.Settles s d := by
  cases made with
  | network inSource inDestination =>
    exact ⟨Symbols.settled_of_mem layered inSource, Symbols.settled_of_mem layered inDestination⟩
  | protocol member => exact Symbols.settled_of_mem layered member
  | service member =>
    have settled := Symbols.settled_of_mem layered member
    obtain ⟨service, bare, _⟩ :=
      Service.settled_withService layered _ (protocol.of_mem layered member) settled
    exact ⟨service, bare⟩
  | port inSource inDestination =>
    exact ⟨Symbols.settled_of_mem layered inSource, Symbols.settled_of_mem layered inDestination⟩
  | @icmpType icmp member =>
    have slash : '/' ∈ (Icmp.withCode icmp).toList := by
      unfold Icmp.withCode
      split
      · next coded => exact has_iff.mp coded
      · have slash : '/' ∈ "/any".toList := by decide
        exact String.toList_append ▸ List.mem_append_right _ slash
    exact ⟨layered.settled_slash slash, slash⟩

theorem Makes.isProtocol (layered : s.IsLayered) (protocol : s.IsProtocol r.protocol)
    (made : Makes s r stage d) : s.IsProtocol d.protocol := by
  cases made with
  | network | port | icmpType => exact protocol
  | protocol member => exact protocol.of_mem layered member
  | service member =>
    have settled := Symbols.settled_of_mem layered member
    exact (Service.settled_withService layered _ (protocol.of_mem layered member) settled).2.2

/-- No stage unsettles what a stage before it has settled. -/
theorem Makes.keeps (layered : s.IsLayered) (order : [earlier, later].Sublist all)
    (protocol : s.IsProtocol r.protocol) (settled : earlier.Settles s r) (made : Makes s r later d) :
    earlier.Settles s d := by
  cases made with
  | network => cases earlier <;> exact absurd order (by decide)
  | protocol =>
    cases earlier with
    | network => exact settled
    | protocol | service | port | icmpType => exact absurd order (by decide)
  | @service descriptor base member cleared =>
    cases earlier with
    | network =>
      obtain ⟨source, destination⟩ := Service.addresses_withService base descriptor
      rw [Settles, source, destination]
      rcases cleared with rfl | rfl
      · exact settled
      · exact settled
    | protocol =>
      have kept := Symbols.IsSettled.of_mem layered member settled
      exact (Service.settled_withService layered _ (protocol.of_mem layered member) kept).1
    | service | port | icmpType => exact absurd order (by decide)
  | port =>
    cases earlier with
    | network | protocol | service => exact settled
    | port | icmpType => exact absurd order (by decide)
  | icmpType =>
    cases earlier with
    | network | protocol | service | port => exact settled
    | icmpType => exact absurd order (by decide)

end Stage

/-- The stages that are left settle the fields that are left. -/
theorem settles_flatten (layered : s.IsLayered) (before : List Stage) (whole : before ++ rest = Stage.all)
    (protocols : ∀ r ∈ records, s.IsProtocol r.protocol)
    (settled : ∀ r ∈ records, ∀ stage ∈ before, stage.Settles s r) :
    ∀ d ∈ flatten s rest records, ∀ stage ∈ Stage.all, stage.Settles s d := by
  induction rest generalizing before records with
  | nil =>
    rw [List.append_nil] at whole
    rw [← whole]
    exact settled
  | cons stage rest ih =>
    apply ih (before ++ [stage]) (by simpa using whole)
    · intro d made
      obtain ⟨r, member, made⟩ := List.mem_flatMap.mp made
      exact (Stage.makes_of_mem made).isProtocol layered (protocols r member)
    · intro d made earlier done
      obtain ⟨r, member, made⟩ := List.mem_flatMap.mp made
      rcases List.mem_append.mp done with ran | now
      · have order : [earlier, stage].Sublist Stage.all := by
          rw [← whole]
          exact (List.singleton_sublist.mpr ran).append (by simp)
        exact (Stage.makes_of_mem made).keeps layered order (protocols r member) (settled r member earlier ran)
      · obtain rfl := List.mem_singleton.mp now
        exact (Stage.makes_of_mem made).settles layered (protocols r member)

/-- Stages leave records alone whose fields they would settle. -/
theorem flatten_settled {stages : List Stage}
    (settled : ∀ r ∈ records, ∀ stage ∈ stages, stage.Settles s r) : flatten s stages records = records := by
  induction stages with
  | nil => rfl
  | cons stage stages ih =>
    have alone : Stage.expandAll s records stage = records := by
      calc records.flatMap (stage.expand s)
        _ = records.flatMap fun r => [r] :=
            List.flatMap_congr fun r member => (settled r member stage (by simp)).expand
        _ = records := List.flatMap_singleton' records
    have rest : ∀ r ∈ records, ∀ other ∈ stages, other.Settles s r :=
      fun r member other later => settled r member other (List.mem_cons_of_mem _ later)
    calc flatten s (stage :: stages) records
      _ = flatten s stages (Stage.expandAll s records stage) := rfl
      _ = records := by rw [alone, ih rest]

/-- Where no key looks like what comes in place of one, flattened records hold no keys in the fields that
are resolved, and to flatten them again changes nothing. -/
theorem flatten_flatten (layered : s.IsLayered) (records : List Record)
    (plain : ∀ r ∈ records, '/' ∉ r.protocol.toList) :
    let flattened := flatten s ({} : Switches).enabled records
    flatten s ({} : Switches).enabled flattened = flattened ∧
      ∀ r ∈ flattened,
        s.isKey .network r.source = false ∧ s.isKey .network r.destination = false ∧
          s.isKey .protocol r.protocol = false ∧ s.isKey .service r.protocol = false ∧
          s.isKey .port r.sourcePort = false ∧ s.isKey .port r.destinationPort = false ∧
          s.isKey .icmpType r.icmp = false := by
  intro flattened
  have all : ({} : Switches).enabled = Stage.all := by decide
  have settled : ∀ r ∈ flattened, ∀ stage ∈ Stage.all, stage.Settles s r := by
    apply settles_flatten layered [] (by rw [all]; rfl)
    · intro r member
      exact .inl (plain r member)
    · simp
  constructor
  · rw [all]
    exact flatten_settled settled
  · intro r member
    have network := settled r member .network (by decide)
    have protocol := settled r member .protocol (by decide)
    have service := settled r member .service (by decide)
    have port := settled r member .port (by decide)
    have icmpType := settled r member .icmpType (by decide)
    exact ⟨network.1.free, network.2.free, Symbols.IsSettled.free protocol, service.1.free, port.1.free,
      port.2.free, icmpType.1.free⟩

/-- A group of services of three shapes, and groups of networks and of ICMP types. -/
theorem flatten_flatten_mail :
    let s : Symbols := { networkGroups := ⟨[("servers", ["10.1.0.0/16", "10.2.0.0/16"])]⟩
                         serviceGroups := ⟨[("mail", ["6/eq/any/eq/25", "1/8/0", "6/eq"])]⟩
                         icmpTypeGroups := ⟨[("ping", ["8", "0/0"])]⟩ }
    let mail : Record := { list := "inside", line := 1, protocol := "mail", source := "0/0", sourcePort := "?mail",
                           destination := "servers", destinationPort := "?mail", icmp := "?mail" }
    let ping : Record := { list := "inside", line := 2, protocol := "1", source := "servers", sourcePort := "-/-",
                           destination := "0/0", destinationPort := "-/-", icmp := "ping" }
    s.IsLayered ∧ (∀ r ∈ [mail, ping], '/' ∉ r.protocol.toList) ∧
      (flatten s ({} : Switches).enabled [mail, ping]).length = 2 * 3 + 2 * 2 ∧
      flatten s ({} : Switches).enabled (flatten s ({} : Switches).enabled [mail, ping]) =
        flatten s ({} : Switches).enabled [mail, ping] := by
  intro s mail ping
  have layered : s.IsLayered := Symbols.isLayered_of_entries (by decide) (by decide) (by decide +kernel)
  have plain : ∀ r ∈ [mail, ping], '/' ∉ r.protocol.toList := by decide
  exact ⟨layered, plain, by decide +kernel, (flatten_flatten layered _ plain).1⟩

end AccessList
