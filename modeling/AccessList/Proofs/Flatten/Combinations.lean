import AccessList.Proofs.Flatten.Distribution
import Mathlib.Algebra.BigOperators.Group.List.Basic
import Mathlib.Tactic.Ring

/-! All stages at once. A record is flattened to one record for each combination of the values that its fields
stand for. The combinations are listed like words in a dictionary, the source address first and the ICMP type
last; the ports and the ICMP type are those that a service leaves, and so depend on the values before them. -/
namespace AccessList

/-- A value for each field of a record that can be an alias. The protocol comes with the service that it is
taken for. -/
structure Combination where
  source : String
  destination : String
  protocol : String
  descriptor : String
  sourcePort : String
  destinationPort : String
  icmp : String
  deriving DecidableEq

/-- The record as a service of a protocol leaves it. A protocol that is its own first service takes nothing away
from the record; any other first takes its clauses. -/
def Record.served (s : Symbols) (r : Record) (protocol descriptor : String) : Record :=
  if (s.members .service protocol).head? = some protocol then r.withService descriptor
  else r.withoutClauses.withService descriptor

/-- The combinations of the values that the fields of a record stand for, in their order. -/
def combinations (s : Symbols) (r : Record) : List Combination :=
  (s.members .network r.source).flatMap fun source =>
  (s.members .network r.destination).flatMap fun destination =>
  (s.members .protocol r.protocol).flatMap fun protocol =>
  (s.members .service protocol).flatMap fun descriptor =>
  (s.members .port (r.served s protocol descriptor).sourcePort).flatMap fun sourcePort =>
  (s.members .port (r.served s protocol descriptor).destinationPort).flatMap fun destinationPort =>
  (s.members .icmpType (r.served s protocol descriptor).icmp).map fun icmp =>
    ⟨source, destination, protocol, descriptor, sourcePort, destinationPort, icmp⟩

/-- The record of a combination. The entry that it comes from is told by the fields that are no aliases. -/
def Combination.record (s : Symbols) (r : Record) (c : Combination) : Record where
  list := r.list
  line := r.line
  type := r.type
  action := r.action
  protocol := (r.served s c.protocol c.descriptor).protocol
  source := c.source
  sourcePort := c.sourcePort
  destination := c.destination
  destinationPort := c.destinationPort
  icmp := Icmp.withCode c.icmp
  state := r.state

/-- How many records there are for a record: a product for the addresses, and for each service of each protocol a
product for the clauses that it leaves. -/
def Record.expansions (s : Symbols) (r : Record) : Nat :=
  (s.members .network r.source).length * (s.members .network r.destination).length *
    ((s.members .protocol r.protocol).map fun protocol =>
      ((s.members .service protocol).map fun descriptor =>
        (s.members .port (r.served s protocol descriptor).sourcePort).length *
        (s.members .port (r.served s protocol descriptor).destinationPort).length *
        (s.members .icmpType (r.served s protocol descriptor).icmp).length).sum).sum

/-- How often the values of a combination are listed together. -/
def Combination.multiplicity (s : Symbols) (r : Record) (c : Combination) : Nat :=
  (s.members .network r.source).count c.source * (s.members .network r.destination).count c.destination *
    (s.members .protocol r.protocol).count c.protocol * (s.members .service c.protocol).count c.descriptor *
    (s.members .port (r.served s c.protocol c.descriptor).sourcePort).count c.sourcePort *
    (s.members .port (r.served s c.protocol c.descriptor).destinationPort).count c.destinationPort *
    (s.members .icmpType (r.served s c.protocol c.descriptor).icmp).count c.icmp

variable {s : Symbols}

/-- A service decides on the protocol and the clauses of a record, whatever its protocol was, and on nothing
else. -/
theorem withService_renamed (r : Record) (protocol descriptor : String) :
    { r with protocol }.withService descriptor = r.withService descriptor := by
  unfold Record.withService
  split <;> rfl

theorem withService_entry (r : Record) (descriptor : String) : r.withService descriptor =
    { r with
      protocol := (r.withService descriptor).protocol
      sourcePort := (r.withService descriptor).sourcePort
      destinationPort := (r.withService descriptor).destinationPort
      icmp := (r.withService descriptor).icmp } := by
  unfold Record.withService
  split <;> rfl

theorem served_entry (s : Symbols) (r : Record) (protocol descriptor : String) : r.served s protocol descriptor =
    { r with
      protocol := (r.served s protocol descriptor).protocol
      sourcePort := (r.served s protocol descriptor).sourcePort
      destinationPort := (r.served s protocol descriptor).destinationPort
      icmp := (r.served s protocol descriptor).icmp } := by
  unfold Record.served
  split
  · exact withService_entry r descriptor
  · exact withService_entry r.withoutClauses descriptor

theorem expand_service_eq (r : Record) (protocol : String) : Stage.service.expand s { r with protocol } =
    (s.members .service protocol).map (r.served s protocol) := by
  refine List.map_congr_left fun descriptor _ => ?_
  by_cases own : (s.members .service protocol).head? = some protocol
  · rw [if_pos own, Record.served, if_pos own, withService_renamed]
  · rw [if_neg own, Record.served, if_neg own]
    exact withService_renamed r.withoutClauses protocol descriptor

theorem flatten_clauses (s : Symbols) (d : Record) : flatten s [.port, .icmpType] [d] =
    (s.members .port d.sourcePort).flatMap fun sourcePort =>
    (s.members .port d.destinationPort).flatMap fun destinationPort =>
    (s.members .icmpType d.icmp).map fun icmp =>
      { d with sourcePort, destinationPort, icmp := Icmp.withCode icmp } := by
  rw [flatten_cons, flatten_eq_flatMap]
  simp only [Stage.expand, flatten_cons, List.flatMap_assoc, List.flatMap_map]
  simp [flatten]

theorem flatten_served (s : Symbols) (r : Record) : flatten s [.protocol, .service, .port, .icmpType] [r] =
    (s.members .protocol r.protocol).flatMap fun protocol =>
    (s.members .service protocol).flatMap fun descriptor =>
    flatten s [.port, .icmpType] [r.served s protocol descriptor] := by
  rw [flatten_cons, flatten_eq_flatMap]
  simp only [Stage.expand, List.flatMap_map]
  refine List.flatMap_congr fun protocol _ => ?_
  rw [flatten_cons, expand_service_eq, flatten_map]

/-- A record is flattened to the records of its combinations. -/
theorem flatten_combinations (s : Symbols) (r : Record) :
    flatten s Stage.all [r] = (combinations s r).map (Combination.record s r) := by
  have later : .network ∉ [Stage.protocol, .service, .port, .icmpType] := by decide
  rw [flatten_addresses]
  simp only [combinations, List.map_flatMap, List.map_map]
  apply List.flatMap_congr
  intro source _
  apply List.flatMap_congr
  intro destination _
  rw [flatten_readdress later, flatten_served]
  simp only [flatten_clauses, List.map_flatMap, List.map_map]
  apply List.flatMap_congr
  intro protocol _
  apply List.flatMap_congr
  intro descriptor _
  rw [served_entry]
  rfl

/-- Where only one member of a list leads to an element, the element comes as often as both come together. -/
theorem count_flatMap_of_apart {α β : Type} [DecidableEq α] [DecidableEq β] {f : α → List β} {a : α} {b : β}
    (apart : ∀ x, x ≠ a → b ∉ f x) (xs : List α) : (xs.flatMap f).count b = xs.count a * (f a).count b := by
  induction xs with
  | nil => simp
  | cons x xs ih =>
    rw [List.flatMap_cons, List.count_append, ih]
    by_cases same : x = a
    · rw [same, List.count_cons_self]
      ring
    · rw [List.count_eq_zero_of_not_mem (apart x same), List.count_cons_of_ne same, zero_add]

theorem length_combinations (s : Symbols) (r : Record) : (combinations s r).length = r.expansions s := by
  simp only [combinations, Record.expansions, List.length_flatMap, List.length_map, List.map_const',
    List.sum_replicate_nat, mul_assoc]

theorem count_combinations (s : Symbols) (r : Record) (c : Combination) :
    (combinations s r).count c = c.multiplicity s r := by
  obtain ⟨source, destination, protocol, descriptor, sourcePort, destinationPort, icmp⟩ := c
  unfold combinations Combination.multiplicity
  have last (xs : List String) : (xs.map fun icmp =>
      Combination.mk source destination protocol descriptor sourcePort destinationPort icmp).count
        ⟨source, destination, protocol, descriptor, sourcePort, destinationPort, icmp⟩ = xs.count icmp :=
    List.count_map_of_injective xs _ (fun x y same => by simpa using same) icmp
  rw [count_flatMap_of_apart (a := source), count_flatMap_of_apart (a := destination),
    count_flatMap_of_apart (a := protocol), count_flatMap_of_apart (a := descriptor),
    count_flatMap_of_apart (a := sourcePort), count_flatMap_of_apart (a := destinationPort), last]
  · ring
  -- The combinations with another value in a place differ from this one there.
  all_goals
    intro x other
    simp [other]

/-- The full expansion in closed form. Flattening with all stages lists the combinations of each record, one
record after another, and fills in the values of the combination beside the fields of the record's entry. So the
number of flattened records is a sum of products, and each combination of a record comes just as often as its
values are listed together: none is missing, and none is repeated that is not repeated in the lists. -/
theorem flatten_eq_combinations (s : Symbols) (records : List Record) :
    flatten s Stage.all records =
        records.flatMap (fun r => (combinations s r).map (Combination.record s r)) ∧
      (flatten s Stage.all records).length = (records.map (Record.expansions s)).sum ∧
      ∀ r c, (combinations s r).count c = c.multiplicity s r := by
  have each : flatten s Stage.all records =
      records.flatMap fun r => (combinations s r).map (Combination.record s r) := by
    rw [flatten_eq_flatMap]
    exact List.flatMap_congr fun r _ => flatten_combinations s r
  refine ⟨each, ?_, count_combinations s⟩
  rw [each, List.length_flatMap]
  simp only [List.length_map, length_combinations]

end AccessList
