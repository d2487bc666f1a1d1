import AccessList.Proofs.Flatten.Distribution

/-! Orders of the stages. Two stages that share no field give the same records in either order. So all orders
give the same records in which the services come after the protocols, and the ports and the types of messages
after the services. -/
namespace AccessList

variable {s : Symbols} {a b stage : Stage} {stages order before after : List Stage} {r : Record}
  {records others : List Record}

namespace Stage

/-- The first of two stages puts into a record what the second looks up or what it overwrites. -/
inductive Feeds : Stage → Stage → Prop where
  | services : Feeds .protocol .service
  | ports : Feeds .service .port
  | types : Feeds .service .icmpType

/-- No stage comes before one that feeds it. -/
def InOrder (stages : List Stage) : Prop := stages.Pairwise fun a b => ¬ b.Feeds a

/-- Of any record the two stages make the same records, whichever of them is first. -/
def Commute (s : Symbols) (a b : Stage) : Prop :=
  ∀ r, ((a.expand s r).flatMap (b.expand s)).Perm ((b.expand s r).flatMap (a.expand s))

theorem Commute.refl (a : Stage) : a.Commute s a := fun _ => .refl _

theorem Commute.symm (commute : a.Commute s b) : b.Commute s a := fun r => (commute r).symm

/-- A stage that replaces one part of a record by each value that this part stands for. -/
structure Replaces (s : Symbols) (stage : Stage) (α : Type) where
  get : Record → α
  set : α → Record → Record
  values : α → List α
  get_set : ∀ v r, get (set v r) = v
  set_get : ∀ r, set (get r) r = r
  expand : ∀ r, stage.expand s r = (values (get r)).map (set · r)

theorem Replaces.commute {α : Type} (part : Replaces s a α)
    (blind : ∀ v r, b.expand s (part.set v r) = (b.expand s r).map (part.set v)) : a.Commute s b := by
  intro r
  have keeps (d : Record) (made : d ∈ b.expand s r) : part.get d = part.get r := by
    have own := blind (part.get r) r
    rw [part.set_get] at own
    rw [own] at made
    obtain ⟨x, _, rfl⟩ := List.mem_map.mp made
    exact part.get_set _ _
  have first : (a.expand s r).flatMap (b.expand s) =
      (part.values (part.get r)).flatMap fun v => (b.expand s r).map (part.set v) := by
    rw [part.expand, List.flatMap_map]
    exact List.flatMap_congr fun v _ => blind v r
  have second : (b.expand s r).flatMap (a.expand s) =
      (b.expand s r).flatMap fun d => (part.values (part.get r)).map (part.set · d) := by
    refine List.flatMap_congr fun d made => ?_
    rw [part.expand, keeps d made]
  rw [first, second, ← Multiset.coe_eq_coe]
  simpa using Multiset.bind_map_comm (part.values (part.get r) : Multiset α) (b.expand s r : Multiset Record)
    (f := part.set)

def addresses (s : Symbols) : Replaces s .network (String × String) where
  get r := (r.source, r.destination)
  set v r := { r with source := v.1, destination := v.2 }
  values v := (s.members .network v.1).flatMap fun source => (s.members .network v.2).map (source, ·)
  get_set _ _ := rfl
  set_get _ := rfl
  expand r := by simp [Stage.expand, List.map_flatMap, Function.comp_def]

def protocols (s : Symbols) : Replaces s .protocol String where
  get r := r.protocol
  set protocol r := { r with protocol }
  values := s.members .protocol
  get_set _ _ := rfl
  set_get _ := rfl
  expand _ := rfl

def ports (s : Symbols) : Replaces s .port (String × String) where
  get r := (r.sourcePort, r.destinationPort)
  set v r := { r with sourcePort := v.1, destinationPort := v.2 }
  values v := (s.members .port v.1).flatMap fun source => (s.members .port v.2).map (source, ·)
  get_set _ _ := rfl
  set_get _ := rfl
  expand r := by simp [Stage.expand, List.map_flatMap, Function.comp_def]

theorem network_commute (b : Stage) : network.Commute s b := by
  by_cases same : b = .network
  · rw [same]
    exact .refl _
  · exact (addresses s).commute fun v r => expand_readdress same r v.1 v.2

theorem protocol_commute_port : protocol.Commute s port :=
  (protocols s).commute fun v r => by simp [Stage.expand, protocols, List.map_flatMap, Function.comp_def]

theorem protocol_commute_icmpType : protocol.Commute s icmpType :=
  (protocols s).commute fun v r => by simp [Stage.expand, protocols, Function.comp_def]

theorem port_commute_icmpType : port.Commute s icmpType :=
  (ports s).commute fun v r => by simp [Stage.expand, ports, Function.comp_def]

/-- Stages commute unless one of them feeds the other. -/
theorem commute_of_not_feeds (forth : ¬ a.Feeds b) (back : ¬ b.Feeds a) : a.Commute s b := by
  cases a with
  | network => exact network_commute b
  | protocol =>
    cases b with
    | network => exact (network_commute _).symm
    | protocol => exact .refl _
    | service => exact absurd .services forth
    | port => exact protocol_commute_port
    | icmpType => exact protocol_commute_icmpType
  | service =>
    cases b with
    | network => exact (network_commute _).symm
    | protocol => exact absurd .services back
    | service => exact .refl _
    | port => exact absurd .ports forth
    | icmpType => exact absurd .types forth
  | port =>
    cases b with
    | network => exact (network_commute _).symm
    | protocol => exact protocol_commute_port.symm
    | service => exact absurd .ports back
    | port => exact .refl _
    | icmpType => exact port_commute_icmpType
  | icmpType =>
    cases b with
    | network => exact (network_commute _).symm
    | protocol => exact protocol_commute_icmpType.symm
    | service => exact absurd .types back
    | port => exact port_commute_icmpType.symm
    | icmpType => exact .refl _

end Stage

open Stage
open scoped List

theorem flatten_perm (same : records.Perm others) :
    (flatten s stages records).Perm (flatten s stages others) := by
  rw [flatten_eq_flatMap s stages records, flatten_eq_flatMap s stages others]
  exact same.flatMap_right _

theorem flatten_swap (commute : a.Commute s b) :
    (flatten s (a :: b :: stages) records).Perm (flatten s (b :: a :: stages) records) := by
  have swapped : ((records.flatMap (a.expand s)).flatMap (b.expand s)).Perm
      ((records.flatMap (b.expand s)).flatMap (a.expand s)) := by
    rw [List.flatMap_assoc, List.flatMap_assoc]
    exact List.Perm.flatMap_left _ fun r _ => commute r
  exact flatten_perm swapped

/-- A stage may come before all those that it commutes with. -/
theorem flatten_front (commute : ∀ b ∈ before, b.Commute s a) :
    (flatten s (before ++ a :: after) records).Perm (flatten s (a :: (before ++ after)) records) := by
  induction before generalizing records with
  | nil => exact .refl _
  | cons b before ih =>
    obtain ⟨here, later⟩ := List.forall_mem_cons.mp commute
    calc flatten s (b :: (before ++ a :: after)) records
      _ = flatten s (before ++ a :: after) (b.expandAll s records) := rfl
      _ ~ flatten s (a :: (before ++ after)) (b.expandAll s records) := ih later
      _ ~ flatten s (a :: b :: (before ++ after)) records := flatten_swap here

/-- Two orders of the same stages give the same records, each as often, if no stage comes before one that
feeds it. -/
theorem flatten_reordered (same : stages.Perm order) (inOrder : InOrder stages) (other : InOrder order) :
    (flatten s stages records).Perm (flatten s order records) := by
  induction stages generalizing order records with
  | nil =>
    obtain rfl : order = [] := List.nil_perm.mp same
    exact .refl _
  | cons a stages ih =>
    -- The first stage of one order is moved to the front of the other.
    obtain ⟨before, after, rfl⟩ := List.append_of_mem (same.mem_iff.mp List.mem_cons_self)
    have rest : stages.Perm (before ++ after) :=
      (List.perm_cons a).mp (same.trans List.perm_middle)
    obtain ⟨notFed, inOrder⟩ := List.pairwise_cons.mp inOrder
    have remaining : InOrder (before ++ after) :=
      other.sublist ((List.sublist_cons_self a after).append_left before)
    have commute (b : Stage) (member : b ∈ before) : b.Commute s a := by
      apply commute_of_not_feeds
      · exact notFed b (rest.mem_iff.mpr (List.mem_append_left _ member))
      · exact (List.pairwise_append.mp other).2.2 b member a List.mem_cons_self
    calc flatten s (a :: stages) records
      _ = flatten s stages (a.expandAll s records) := rfl
      _ ~ flatten s (before ++ after) (a.expandAll s records) := ih rest inOrder remaining
      _ ~ flatten s (before ++ a :: after) records := (flatten_front commute).symm

theorem not_sublist_swap {α : Type} {l : List α} {x y : α} (nodup : l.Nodup) (forth : [x, y] <+ l) :
    ¬ [y, x] <+ l := by
  intro back
  induction l with
  | nil => cases forth
  | cons z l ih =>
    obtain ⟨fresh, nodup⟩ := List.nodup_cons.mp nodup
    have first : x ∈ [y, x] ∧ y ∈ [x, y] := by simp
    rcases List.sublist_cons_iff.mp forth with inner | ⟨_, pair, only⟩
    · rcases List.sublist_cons_iff.mp back with inner' | ⟨_, pair, _⟩
      · exact ih nodup inner inner'
      · obtain ⟨rfl, rfl⟩ := List.cons.inj pair
        exact fresh (inner.subset first.2)
    · obtain ⟨rfl, rfl⟩ := List.cons.inj pair
      rcases List.sublist_cons_iff.mp back with inner' | ⟨_, pair, _⟩
      · exact fresh (inner'.subset first.1)
      · obtain ⟨rfl, rfl⟩ := List.cons.inj pair
        exact fresh (List.singleton_sublist.mp only)

theorem inOrder_of_pairs (nodup : order.Nodup) (services : [protocol, service] <+ order)
    (ports : [service, port] <+ order) (types : [service, icmpType] <+ order) : InOrder order := by
  apply List.pairwise_iff_forall_sublist.mpr
  intro a b pair feeds
  cases feeds with
  | services => exact not_sublist_swap nodup services pair
  | ports => exact not_sublist_swap nodup ports pair
  | types => exact not_sublist_swap nodup types pair

/-- The order of the stages matters only where the services follow the protocols, and the ports and the types of
messages follow the services. Any order of all stages that keeps to this gives the same records as the usual one,
each as often. -/
theorem order_immaterial (s : Symbols) (records : List Record) (each : order.Perm Stage.all)
    (services : [protocol, service] <+ order) (ports : [service, port] <+ order)
    (types : [service, icmpType] <+ order) :
    (flatten s order records).Perm (flatten s Stage.all records) := by
  have nodup : Stage.all.Nodup := by decide
  have inOrder : InOrder order := inOrder_of_pairs (each.nodup_iff.mpr nodup) services ports types
  have usual : InOrder Stage.all := inOrder_of_pairs nodup (by decide) (by decide) (by decide)
  exact flatten_reordered each inOrder usual

/-- The types of messages first of what may follow the services, and the networks last. -/
theorem order_immaterial_networks_last :
    let s : Symbols := {
      networkGroups := ⟨[("servers", ["10.1.0.0/16", "10.2.0.0/16"])]⟩
      protocolGroups := ⟨[("mixed", ["web", "1"])]⟩
      serviceGroups := ⟨[("web", ["6/eq/any/eq/80", "6/eq/any/eq/443"])]⟩
      icmpTypeGroups := ⟨[("ping", ["8", "0"])]⟩ }
    let order := [protocol, service, icmpType, port, network]
    let records : List Record := [{ protocol := "mixed", source := "servers", sourcePort := "-/-",
                                    destination := "0/0", destinationPort := "-/-", icmp := "ping" }]
    order.Perm Stage.all ∧ [protocol, service] <+ order ∧ [service, port] <+ order ∧
      [service, icmpType] <+ order ∧ flatten s order records ≠ flatten s Stage.all records ∧
      (flatten s order records).Perm (flatten s Stage.all records) := by
  intro s order records
  have each : order.Perm Stage.all := by decide
  have services : [protocol, service] <+ order := by decide
  have ports : [service, port] <+ order := by decide
  have types : [service, icmpType] <+ order := by decide
  have differ : flatten s order records ≠ flatten s Stage.all records := by decide +kernel
  exact ⟨each, services, ports, types, differ, order_immaterial s records each services ports types⟩

end AccessList
