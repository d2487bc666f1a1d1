import AccessList.Proofs.Flatten.Distribution
import AccessList.Proofs.Lookup.Separation
import AccessList.Proofs.Lookup.Shadowing
import Mathlib.Data.List.ProdSigma

/-! Look-ups in a flattened record. The members of the two address fields alone decide what is found: a pair
of members that holds the query gives as many matches as the record has services, ports and ICMP types,
and any other pair gives none. -/
namespace AccessList.Lookup

variable {t : Target} {r : Record} {q : Query} {records : List Record} {shadowed : String} {s : Symbols}

/-- Whether an address field holds an address of a query, given the form in which that is compared. Every
field holds one that is not asked for. -/
def admits (a : QueryAddress) (compared field : String) : Bool :=
  !a.isGiven || match isWithin field compared a.kind with
    | .ok inside => inside
    | .error _ => false

/-- Whether two addresses, as source and destination of a record, hold a query. -/
def admitsPair (t : Target) (pair : String × String) : Bool :=
  admits t.query.source t.source pair.1 && admits t.query.destination t.destination pair.2

def readdress (r : Record) (pair : String × String) : Record :=
  { r with source := pair.1, destination := pair.2 }

/-- The pairs of addresses that the address fields of a record stand for. -/
def addressPairs (s : Symbols) (r : Record) : List (String × String) :=
  s.members .network r.source ×ˢ s.members .network r.destination

theorem target?_query (target : target? q = some t) : t.query = q := by
  simp only [target?_eq, Option.bind_eq_some_iff, Option.map_eq_some_iff] at target
  obtain ⟨_, _, _, _, rfl⟩ := target
  rfl

theorem admits_iff {a : QueryAddress} {compared field : String} :
    admits a compared field = true ↔ (a.isGiven = true → isWithin field compared a.kind = .ok true) := by
  cases given : a.isGiven
  · simp [admits, given]
  · cases answer : isWithin field compared a.kind <;> simp [admits, given, answer]

theorem isMatch_eq_admitsPair {matched : Bool}
    (given : t.query.source.isGiven = true ∨ t.query.destination.isGiven = true)
    (answer : isMatch t r = .ok matched) : matched = admitsPair t (r.source, r.destination) := by
  have held : t.IsHeldBy r ↔ admitsPair t (r.source, r.destination) = true := by
    rw [Target.isHeldBy_iff, admitsPair, Bool.and_eq_true, admits_iff, admits_iff]
    cases source : t.query.source.isGiven <;> cases destination : t.query.destination.isGiven <;>
      simp_all
  rw [Bool.eq_iff_iff, ← held, ← isMatch_iff, answer, Except.ok.injEq]

theorem resume_full {accepts : Record → Bool} (answers : ∀ r ∈ records, isMatch t r = .ok (accepts r)) :
    (resume t shadowed records).full = (records.filter accepts).map fun r => ⟨t.query.tag, r⟩ := by
  induction records generalizing shadowed with
  | nil => rfl
  | cons r records ih =>
    obtain ⟨answer, answersRest⟩ := List.forall_mem_cons.mp answers
    have rest : Answers t records := fun d member => ⟨accepts d, answersRest d member⟩
    rw [resume_cons rest answer]
    simp only [Matches.append, Matches.one, ih answersRest]
    cases accepted : accepts r <;> simp [accepted]

theorem filter_flatMap_uniform {α β : Type} {xs : List α} {f : α → List β} {p : α → Bool} {accepts : β → Bool}
    (uniform : ∀ x ∈ xs, ∀ y ∈ f x, accepts y = p x) :
    (xs.flatMap f).filter accepts = (xs.filter p).flatMap f := by
  induction xs with
  | nil => rfl
  | cons x xs ih =>
    obtain ⟨first, rest⟩ := List.forall_mem_cons.mp uniform
    rw [List.flatMap_cons, List.filter_append, ih rest]
    cases kept : p x with
    | true =>
      have all : (f x).filter accepts = f x := List.filter_eq_self.mpr fun y member => by
        rw [first y member, kept]
      rw [all, List.filter_cons_of_pos kept, List.flatMap_cons]
    | false =>
      have none : (f x).filter accepts = [] := List.filter_eq_nil_iff.mpr fun y member => by
        simp [first y member, kept]
      rw [none, List.filter_cons_of_neg (by simp [kept]), List.nil_append]

theorem flatten_pairs (s : Symbols) (r : Record) : flatten s ({} : Switches).enabled [r] =
    (addressPairs s r).flatMap fun pair =>
      (flatten s (({} : Switches).set .network false).enabled [r]).map (readdress · pair) := by
  have all : ({} : Switches).enabled = Stage.all := by decide
  have later : (({} : Switches).set .network false).enabled = [.protocol, .service, .port, .icmpType] := by
    decide
  have pairs : addressPairs s r = (s.members .network r.source).flatMap fun source =>
      (s.members .network r.destination).map (Prod.mk source) := rfl
  rw [all, later, flatten_addresses, pairs, List.flatMap_assoc]
  refine List.flatMap_congr fun source _ => ?_
  rw [List.flatMap_map]
  exact List.flatMap_congr fun destination _ => flatten_readdress (by decide) r source destination

/-- What is found in a flattened record, and that the look-up in it ends. -/
theorem lookUp_flatten_full (target : target? q = some t)
    (given : q.source.isGiven = true ∨ q.destination.isGiven = true)
    (answered : ∀ pair ∈ addressPairs s r, ∃ b, isMatch t (readdress r pair) = .ok b) :
    (lookUp (flatten s ({} : Switches).enabled [r]) q).failure = none ∧
      (lookUp (flatten s ({} : Switches).enabled [r]) q).found.full =
        ((addressPairs s r).filter (admitsPair t)).flatMap fun pair =>
          (flatten s (({} : Switches).set .network false).enabled [r]).map fun d =>
            ⟨q.tag, readdress d pair⟩ := by
  obtain rfl := target?_query target
  have answers : ∀ d ∈ flatten s ({} : Switches).enabled [r],
      isMatch t d = .ok (admitsPair t (d.source, d.destination)) := by
    intro d member
    rw [flatten_pairs] at member
    obtain ⟨pair, among, made⟩ := List.mem_flatMap.mp member
    obtain ⟨_, _, rfl⟩ := List.mem_map.mp made
    obtain ⟨b, answer⟩ := answered pair among
    obtain rfl := isMatch_eq_admitsPair given answer
    exact answer
  constructor
  · rw [lookUp_failure target]
    exact search_fine (fun d member => ⟨_, answers d member⟩) rfl
  · have uniform : ∀ pair ∈ addressPairs s r,
        ∀ d ∈ (flatten s (({} : Switches).set .network false).enabled [r]).map (readdress · pair),
          admitsPair t (d.source, d.destination) = admitsPair t pair := by
      intro pair _ d made
      obtain ⟨_, _, rfl⟩ := List.mem_map.mp made
      rfl
    rw [lookUp_of_target target, resume_full answers, flatten_pairs, filter_flatMap_uniform uniform,
      List.map_flatMap]
    simp only [List.map_map, Function.comp_def]

/-- The look-up of a query in a flattened record ends, and it finds as many records for each pair of
members that holds the query as the later stages make of the record. So if they make any, the record is
found just when some pair of members holds the query. -/
theorem lookUp_flatten (s : Symbols) (r : Record) (target : target? q = some t)
    (given : q.source.isGiven = true ∨ q.destination.isGiven = true)
    (answered : ∀ source ∈ s.members .network r.source, ∀ destination ∈ s.members .network r.destination,
      ∃ b, isMatch t { r with source, destination } = .ok b) :
    let outcome := lookUp (flatten s ({} : Switches).enabled [r]) q
    let later := (flatten s (({} : Switches).set .network false).enabled [r]).length
    outcome.failure = none ∧
      outcome.found.full.length = later * (addressPairs s r).countP (admitsPair t) ∧
      (0 < later → (outcome.found.full ≠ [] ↔
        ∃ source ∈ s.members .network r.source, ∃ destination ∈ s.members .network r.destination,
          admits q.source t.source source = true ∧
            admits q.destination t.destination destination = true)) := by
  intro outcome later
  have pairs : ∀ pair ∈ addressPairs s r, ∃ b, isMatch t (readdress r pair) = .ok b := by
    rintro ⟨source, destination⟩ member
    obtain ⟨inSource, inDestination⟩ := List.mem_product.mp member
    exact answered source inSource destination inDestination
  obtain ⟨fine, full⟩ := lookUp_flatten_full target given pairs
  have count : outcome.found.full.length = later * (addressPairs s r).countP (admitsPair t) := by
    rw [full, List.length_flatMap, List.countP_eq_length_filter]
    simp [later, Nat.mul_comm]
  refine ⟨fine, count, ?_⟩
  intro some
  obtain rfl := target?_query target
  calc outcome.found.full ≠ []
    _ ↔ 0 < later * (addressPairs s r).countP (admitsPair t) := by
        rw [← count, List.length_pos_iff]
    _ ↔ ∃ pair ∈ addressPairs s r, admitsPair t pair = true := by
        rw [Nat.mul_pos_iff_of_pos_left some, List.countP_pos_iff]
    _ ↔ _ := by
        simp [addressPairs, admitsPair, and_assoc]

/-- A group of services, and a group of networks two of whose members hold the host that is asked for. -/
theorem lookUp_flatten_servers :
    let s : Symbols := { networkGroups := ⟨[("servers", ["10.1.0.0/16", "10.2.0.0/16", "10.1.0.0/24"])]⟩
                         serviceGroups := ⟨[("mail", ["6/eq/any/eq/25", "6/eq/any/eq/587"])]⟩ }
    let r : Record := { list := "inside", action := "permit", protocol := "mail", source := "0/0",
                        sourcePort := "?mail", destination := "servers", destinationPort := "?mail",
                        icmp := "?mail" }
    let q : Query := ⟨{}, ⟨"10.1.0.5/32", .v4⟩⟩
    target? q = some ⟨q, "", "10.1.0.5/32"⟩ ∧ q.destination.isGiven = true ∧
      (∀ source ∈ s.members .network r.source, ∀ destination ∈ s.members .network r.destination,
        ∃ b, isMatch ⟨q, "", "10.1.0.5/32"⟩ { r with source, destination } = .ok b) ∧
      (lookUp (flatten s ({} : Switches).enabled [r]) q).failure = none ∧
      (lookUp (flatten s ({} : Switches).enabled [r]) q).found.full.length = 2 * 2 := by
  intro s r q
  have target : target? q = some ⟨q, "", "10.1.0.5/32"⟩ := rfl
  have answered : ∀ source ∈ s.members .network r.source,
      ∀ destination ∈ s.members .network r.destination,
        ∃ b, isMatch ⟨q, "", "10.1.0.5/32"⟩ { r with source, destination } = .ok b := by
    have sources : s.members .network r.source = ["0/0"] := by decide +kernel
    have destinations : s.members .network r.destination = ["10.1.0.0/16", "10.2.0.0/16", "10.1.0.0/24"] := by
      decide +kernel
    rw [sources, destinations]
    intro source inSources destination inDestinations
    simp only [List.mem_cons, List.not_mem_nil, or_false] at inSources inDestinations
    subst inSources
    rcases inDestinations with rfl | rfl | rfl
    · exact ⟨true, by decide +kernel⟩
    · exact ⟨false, by decide +kernel⟩
    · exact ⟨true, by decide +kernel⟩
  obtain ⟨fine, count, _⟩ := lookUp_flatten s r target (.inr (by decide)) answered
  have later : (flatten s (({} : Switches).set .network false).enabled [r]).length = 2 := by decide +kernel
  have holding : (addressPairs s r).countP (admitsPair ⟨q, "", "10.1.0.5/32"⟩) = 2 := by decide +kernel
  rw [later, holding] at count
  exact ⟨target, by decide, answered, fine, count⟩

end AccessList.Lookup
