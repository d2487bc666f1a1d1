import AccessList.Entry.Reader
import AccessList.Flatten.Pipeline
import Mathlib.Data.Multiset.Bind

/-! Flattening one record at a time. No stage looks at two records, and an alias in an address field gives
what the addresses that it stands for give. -/
namespace AccessList

variable {s : Symbols} {stages : List Stage} {kind : GroupKind} {field value : String}
  {values : List String} {r : Record}

/-- Each record is flattened on its own. -/
theorem flatten_eq_flatMap (s : Symbols) (stages : List Stage) (records : List Record) :
    flatten s stages records = records.flatMap fun r => flatten s stages [r] := by
  induction stages generalizing records with
  | nil => exact (List.flatMap_singleton' records).symm
  | cons stage stages ih =>
    calc flatten s (stage :: stages) records
      _ = flatten s stages (records.flatMap (stage.expand s)) := rfl
      _ = records.flatMap fun r => (stage.expand s r).flatMap fun x => flatten s stages [x] := by
          rw [ih, List.flatMap_assoc]
      _ = records.flatMap fun r => flatten s (stage :: stages) [r] := by
          refine List.flatMap_congr fun r _ => ?_
          rw [← ih]
          simp [flatten, Stage.expandAll]

theorem flatten_map {α : Type} (f : α → Record) (xs : List α) :
    flatten s stages (xs.map f) = xs.flatMap fun x => flatten s stages [f x] := by
  rw [flatten_eq_flatMap, List.flatMap_map]

theorem flatten_cons (stage : Stage) (r : Record) :
    flatten s (stage :: stages) [r] = flatten s stages (stage.expand s r) := by
  simp [flatten, Stage.expandAll]

theorem mem_flatten_cons {stage : Stage} {d : Record} :
    d ∈ flatten s (stage :: stages) [r] ↔ ∃ x ∈ stage.expand s r, d ∈ flatten s stages [x] := by
  rw [flatten_cons, flatten_eq_flatMap, List.mem_flatMap]

/-- What becomes of the record for each pair of addresses that its address fields stand for. -/
theorem flatten_addresses (r : Record) :
    flatten s Stage.all [r] = (s.members .network r.source).flatMap fun source =>
      (s.members .network r.destination).flatMap fun destination =>
        flatten s [.protocol, .service, .port, .icmpType] [{ r with source, destination }] := by
  rw [Stage.all, flatten_cons, flatten_eq_flatMap]
  simp only [Stage.expand, List.flatMap_assoc, List.flatMap_map]

theorem withService_readdress (r : Record) (source destination descriptor : String) :
    { r with source, destination }.withService descriptor =
      { r.withService descriptor with source, destination } := by
  unfold Record.withService
  split <;> rfl

theorem expand_readdress {stage : Stage} (later : stage ≠ .network) (r : Record)
    (source destination : String) : stage.expand s { r with source, destination } =
      (stage.expand s r).map fun d => { d with source, destination } := by
  cases stage with
  | network => exact absurd rfl later
  | protocol => simp [Stage.expand]
  | service =>
    simp only [Stage.expand, List.map_map]
    refine List.map_congr_left fun descriptor _ => ?_
    split
    · exact withService_readdress r source destination descriptor
    · exact withService_readdress r.withoutClauses source destination descriptor
  | port => simp [Stage.expand, List.map_flatMap, Function.comp_def]
  | icmpType => simp [Stage.expand]

theorem flatten_readdress (later : .network ∉ stages) (r : Record) (source destination : String) :
    flatten s stages [{ r with source, destination }] =
      (flatten s stages [r]).map fun d => { d with source, destination } := by
  induction stages generalizing r with
  | nil => rfl
  | cons stage stages ih =>
    obtain ⟨other, others⟩ : .network ≠ stage ∧ .network ∉ stages := by simpa using later
    rw [flatten_cons, expand_readdress (Ne.symm other), flatten_map, flatten_cons, flatten_eq_flatMap,
      List.map_flatMap]
    exact List.flatMap_congr fun d _ => ih others d

theorem members_self (given : field ≠ "") (object : s.object? kind field = none)
    (group : s.hasGroup kind field = false) : s.members kind field = [field] := by
  have none : (s.groups kind).get? field = none := by simpa [Symbols.hasGroup, Table.contains] using group
  simp [Symbols.members, given, object, none]

theorem members_object (given : field ≠ "") (object : s.object? kind field = some value) :
    s.members kind field = [value] := by
  simp [Symbols.members, given, object]

theorem members_group (given : field ≠ "") (object : s.object? kind field = none)
    (group : (s.groups kind).get? field = some values) : s.members kind field = values := by
  simp [Symbols.members, given, object, group]

theorem flatten_source (members : s.members .network field = values)
    (itself : ∀ v ∈ values, s.members .network v = [v]) :
    flatten s Stage.all [{ r with source := field }] =
      flatten s Stage.all (values.map fun v => { r with source := v }) := by
  rw [flatten_map, flatten_addresses, members]
  refine List.flatMap_congr fun v member => ?_
  simp [flatten_addresses, itself v member]

theorem flatten_destination (members : s.members .network field = values)
    (itself : ∀ v ∈ values, s.members .network v = [v]) :
    (flatten s Stage.all [{ r with destination := field }]).Perm
      (flatten s Stage.all (values.map fun v => { r with destination := v })) := by
  let one (source destination : String) : List Record :=
    flatten s [.protocol, .service, .port, .icmpType] [{ r with source, destination }]
  have whole : flatten s Stage.all [{ r with destination := field }] =
      (s.members .network r.source).flatMap fun source => values.flatMap (one source) := by
    rw [flatten_addresses, members]
  have each : flatten s Stage.all (values.map fun v => { r with destination := v }) =
      values.flatMap fun v => (s.members .network r.source).flatMap fun source => one source v := by
    rw [flatten_map]
    refine List.flatMap_congr fun v member => ?_
    simp [flatten_addresses, itself v member, one]
  rw [whole, each, ← Multiset.coe_eq_coe]
  simpa using Multiset.bind_bind (s.members .network r.source : Multiset String) (values : Multiset String)
    (f := fun source v => (one source v : Multiset Record))

/-- A record that is not dropped is flattened for every pair of addresses that its address fields stand for. -/
theorem exists_addressed {source destination : String} (kept : flatten s Stage.all [r] ≠ [])
    (inSource : source ∈ s.members .network r.source)
    (inDestination : destination ∈ s.members .network r.destination) :
    ∃ d ∈ flatten s Stage.all [r], d.source = source ∧ d.destination = destination := by
  have later : .network ∉ [Stage.protocol, .service, .port, .icmpType] := by decide
  obtain ⟨d, member⟩ := List.exists_mem_of_ne_nil _ kept
  rw [flatten_addresses] at member
  obtain ⟨_, _, member⟩ := List.mem_flatMap.mp member
  obtain ⟨_, _, member⟩ := List.mem_flatMap.mp member
  rw [flatten_readdress later] at member
  obtain ⟨rest, member, _⟩ := List.mem_map.mp member
  refine ⟨{ rest with source, destination }, ?_, rfl, rfl⟩
  rw [flatten_addresses]
  refine List.mem_flatMap.mpr ⟨source, inSource, List.mem_flatMap.mpr ⟨destination, inDestination, ?_⟩⟩
  rw [flatten_readdress later]
  exact List.mem_map.mpr ⟨rest, member, rfl⟩

theorem flatten_no_source (empty : r.source = "") : flatten s Stage.all [r] = [] := by
  rw [flatten_addresses, empty]
  rfl

theorem flatten_no_destination (empty : r.destination = "") : flatten s Stage.all [r] = [] := by
  rw [flatten_addresses, empty]
  exact List.flatMap_eq_nil_iff.mpr fun _ _ => rfl

theorem flatten_no_protocol (empty : r.protocol = "") : flatten s Stage.all [r] = [] := by
  rw [flatten_addresses]
  refine List.flatMap_eq_nil_iff.mpr fun source _ => List.flatMap_eq_nil_iff.mpr fun destination _ => ?_
  have none : Stage.protocol.expand s { r with source, destination } = [] := by
    simp [Stage.expand, Symbols.members, empty]
  rw [flatten_cons, none]
  rfl

def compile (s : Symbols) (entries : List (List String)) (number : Nat) : List Record :=
  flatten s Stage.all (entries.map fun tokens => (Entry.extended s tokens number).value)

end AccessList
