import AccessList.Proofs.Lookup.Expansion
import AccessList.Proofs.Lookup.Failure

/-! Queries with a malformed address. The look is all that makes an address one of a family, so that a query
may be read whose address is none. It is turned down where the part before the slash is to be written in full;
elsewhere it is compared, and lies in no field but the one that everything lies in. -/
namespace AccessList

open Text Address Lookup

variable {f : Family} {a : QueryAddress} {q : Query} {t : Target} {r : Record} {records : List Record}
  {field text : String} {m : Match}

namespace QueryAddress

def host (a : QueryAddress) : String := ((cut '/' a.text).map (·.1)).getD a.text

/-- What stands after the first slash. An address without a slash is one host. -/
def length (a : QueryAddress) : String := ((cut '/' a.text).map (·.2)).getD "128"

/-- An address that looks like one of a family and asks for nothing. -/
structure IsMalformed (a : QueryAddress) : Prop where
  given : a.isGiven = true
  family : ∃ f : Family, a.kind = f.kind
  senseless : ∀ asked, ¬ a.AsksFor asked

/-- An address of version 6 that has no full form. -/
structure IsUnreadable (a : QueryAddress) : Prop where
  given : a.isGiven = true
  kind : a.kind = .v6
  host : Family.v6.read? a.host = none

theorem canonical?_v6 (kind : a.kind = .v6) :
    a.canonical? = (Family.v6.read? a.host).map fun address => s!"{Hextets.full address}/{a.length}" := by
  cases split : cut '/' a.text with
  | none =>
    have noSlash : has '/' a.text = false := cut_eq_none.mp split
    have free : '/' ∉ a.text.toList := by simpa [has] using noSlash
    have sized : cut '/' s!"{a.text}/128" = some (a.text, "128") := by
      rw [slash_host a.text rfl]
      exact cut_join rfl free
    simp [canonical?, kind, noSlash, beforeSlash, sized, host, length, split, full?, Family.read?,
      Option.map_map, Function.comp_def]
  | some parts =>
    obtain ⟨before, after⟩ := parts
    have slash : has '/' a.text = true := by
      rw [has_iff, (eq_of_cut split).1]
      simp
    simp [canonical?, kind, slash, beforeSlash, split, host, length, full?, Family.read?, Option.map_map,
      Function.comp_def]

theorem comparedText?_eq_none : comparedText? a = none ↔ a.IsUnreadable := by
  constructor
  · intro none
    unfold comparedText? at none
    split at none
    · next given =>
      have kind : a.kind = .v6 := by
        by_contra other
        simp [canonical?, other] at none
      rw [canonical?_v6 kind, Option.map_eq_none_iff] at none
      exact ⟨given, kind, none⟩
    · cases none
  · rintro ⟨given, kind, host⟩
    rw [comparedText?, if_pos given, canonical?_v6 kind, host, Option.map_none]

end QueryAddress

namespace Lookup

theorem asks_of_spelled (spelled : Cidr.IsSpelled f text) : ∃ asked, Asks f text asked := by
  obtain ⟨_, _, address, length, rfl, read, decimal, bound⟩ := spelled
  by_cases first : IsFirst length address
  · exact ⟨_, .network read decimal bound first⟩
  · exact ⟨_, .host read decimal bound first⟩

theorem spelled_of_isInField (inside : isInField f field text = .ok true) : Cidr.IsSpelled f text := by
  unfold isInField at inside
  split at inside
  · cases inside
  split at inside
  · exact ((isInRange_answers f text field).2 inside).1
  split at inside
  · exact ((isInSegment_answers f text field).2 inside).1
  · cases inside

/-- Where the full form of an address of version 6 is well-formed, so is the address. -/
theorem asksFor_of_full {address : Address .v6} (kind : a.kind = .v6)
    (read : Family.v6.read? a.host = some address)
    (spelled : Cidr.IsSpelled .v6 s!"{Hextets.full address}/{a.length}") : ∃ asked, a.AsksFor asked := by
  obtain ⟨text, _⟩ := a
  obtain rfl := kind
  obtain ⟨whole, p, _, n, same, readWhole, decimal, bound⟩ := spelled
  -- Neither an address nor a full form has a slash, so that both texts are cut at the same place.
  obtain rfl : p = QueryAddress.length ⟨text, .v6⟩ := by
    have here : cut '/' s!"{whole}/{p}" = some (whole, p) :=
      cut_join rfl (not_mem_of_spelling readWhole (by decide))
    have there : cut '/' s!"{Hextets.full address}/{QueryAddress.length ⟨text, .v6⟩}" =
        some (Hextets.full address, QueryAddress.length ⟨text, .v6⟩) :=
      cut_join rfl (Hextets.not_mem_full (by decide) (by decide))
    rw [same, here] at there
    exact congrArg Prod.snd (Option.some.inj there)
  cases split : cut '/' text with
  | none =>
    have host : QueryAddress.host ⟨text, .v6⟩ = text := by simp [QueryAddress.host, split]
    rw [host] at read
    exact ⟨_, .bare read⟩
  | some parts =>
    obtain ⟨host, length⟩ := parts
    simp only [QueryAddress.host, QueryAddress.length, split, Option.map_some, Option.getD_some] at read decimal
    obtain ⟨asked, asks⟩ := asks_of_spelled ⟨host, length, address, n, join_of_cut rfl split, read, decimal, bound⟩
    exact ⟨asked, .sized asks⟩

/-- A malformed address lies in no field but that of all addresses. -/
theorem eq_anyAddress_of_malformed (malformed : a.IsMalformed) (compared : comparedText? a = some text)
    (inside : isWithin field text a.kind = .ok true) : field = Field.anyAddress := by
  by_contra special
  have canonical : a.canonical? = some text := by rwa [comparedText?, if_pos malformed.given] at compared
  obtain ⟨f, kind⟩ := malformed.family
  rw [kind, isWithin_field special] at inside
  have spelled := spelled_of_isInField inside
  have sensible : ∃ asked, a.AsksFor asked := by
    cases f with
    | v4 =>
      obtain rfl : a.text = text := by simpa [QueryAddress.canonical?, kind, Family.kind] using canonical
      obtain ⟨asked, asks⟩ := asks_of_spelled spelled
      have whole : a = ⟨a.text, Family.v4.kind⟩ := by rw [← kind]
      exact ⟨asked, whole ▸ .sized asks⟩
    | v6 =>
      rw [QueryAddress.canonical?_v6 kind, Option.map_eq_some_iff] at canonical
      obtain ⟨address, read, rfl⟩ := canonical
      exact asksFor_of_full kind read spelled
  obtain ⟨asked, asks⟩ := sensible
  exact malformed.senseless asked asks

theorem isMatch_of_mem (member : m ∈ (search t records).full.toList) :
    m.record ∈ records ∧ isMatch t m.record = .ok true := by
  induction records using List.reverseRecOn with
  | nil => simp [search] at member
  | append_singleton records r ih =>
    rw [search_concat] at member
    have earlier (before : m ∈ (search t records).full.toList) :
        m.record ∈ records ++ [r] ∧ isMatch t m.record = .ok true :=
      ⟨List.mem_append_left _ (ih before).1, (ih before).2⟩
    by_cases fine : (search t records).failure = none
    · cases answer : isMatch t r with
      | error cause =>
        refine earlier ?_
        by_cases same : (search t records).shadowed = r.list <;> simpa [visit, fine, answer, same] using member
      | ok matched =>
        rw [visit_ok fine answer, Search.found] at member
        cases matched with
        | false => exact earlier (by simpa using member)
        | true =>
          rcases (by simpa using member) with before | rfl
          · exact earlier (by simpa using before)
          · exact ⟨by simp, answer⟩
    · have failed : (search t records).failure.isSome = true := Option.isSome_iff_ne_none.mpr fine
      exact earlier (by simpa [visit, failed] using member)

theorem isMatch_anyAddress (source : r.source = Field.anyAddress) (destination : r.destination = Field.anyAddress) :
    isMatch t r = .ok true := by
  have within {field : String} (any : field = Field.anyAddress) (text : String) (kind : AddressKind) :
      isWithin field text kind = .ok true := by
    simp [isWithin, any, pure, Except.pure]
  exact isMatch_iff.mpr ⟨fun _ => within source _ _, fun _ => within destination _ _⟩

theorem mem_of_isMatch (ended : (search t records).failure = none) (among : r ∈ records)
    (matched : isMatch t r = .ok true) : ⟨t.query.tag, r⟩ ∈ (search t records).full.toList := by
  have answers : ∀ r ∈ records, isMatch t r = .ok (isMatch t r == .ok true) := by
    intro r member
    obtain ⟨b, answer⟩ := answers_of_fine ended r member
    cases b <;> rw [answer] <;> rfl
  have found : (search t records).full.toList = (resume t "" records).full := rfl
  rw [found, resume_full answers]
  exact List.mem_map_of_mem (List.mem_filter.mpr ⟨among, by rw [matched]; rfl⟩)

theorem target?_eq_none : target? q = none ↔ q.source.IsUnreadable ∨ q.destination.IsUnreadable := by
  rw [← QueryAddress.comparedText?_eq_none, ← QueryAddress.comparedText?_eq_none, target?_eq]
  cases comparedText? q.source <;> cases comparedText? q.destination <;> simp

theorem compared_of_target (target : target? q = some t) :
    comparedText? q.source = some t.source ∧ comparedText? q.destination = some t.destination := by
  rw [target?_eq, Option.bind_eq_some_iff] at target
  obtain ⟨source, comparedSource, target⟩ := target
  obtain ⟨destination, comparedDestination, rfl⟩ := Option.map_eq_some_iff.mp target
  exact ⟨comparedSource, comparedDestination⟩

/-- In the place of a malformed address nothing is found but the fields of all addresses. -/
theorem anyAddress_of_found (target : target? q = some t) (found : m ∈ (search t records).full.toList) :
    (q.source.IsMalformed → m.record.source = Field.anyAddress) ∧
      (q.destination.IsMalformed → m.record.destination = Field.anyAddress) := by
  obtain rfl := target?_query target
  obtain ⟨source, destination⟩ := compared_of_target target
  have held : t.IsHeldBy m.record := isMatch_iff.mp (isMatch_of_mem found).2
  constructor
  · intro malformed
    exact eq_anyAddress_of_malformed malformed source (held.source (.inl malformed.given))
  · intro malformed
    exact eq_anyAddress_of_malformed malformed destination (held.destination (.inl malformed.given))

/-- A query is turned down with a problem, and finds nothing, just when one of its addresses is of version 6
and has no full form. Any other is looked up and no problem is noted, also where an address is malformed. In
the place of that address it finds the fields of all addresses, and these only. -/
theorem malformed_turned_down_iff (records : List Record) (q : Query) :
    let outcome := lookUp records q
    (outcome.found = {} ∧ outcome.problems = [.invalidAddress q] ↔
      q.source.IsUnreadable ∨ q.destination.IsUnreadable) ∧
    (¬ (q.source.IsUnreadable ∨ q.destination.IsUnreadable) →
      outcome.problems = [] ∧
      (∀ m ∈ outcome.found.full, (q.source.IsMalformed → m.record.source = Field.anyAddress) ∧
        (q.destination.IsMalformed → m.record.destination = Field.anyAddress)) ∧
      (outcome.failure = none → ∀ r ∈ records, r.source = Field.anyAddress → r.destination = Field.anyAddress →
        ⟨q.tag, r⟩ ∈ outcome.found.full)) := by
  intro outcome
  cases target : target? q with
  | none =>
    have turned : outcome = { problems := [.invalidAddress q] } := by simp only [outcome, lookUp, target]
    have unreadable := target?_eq_none.mp target
    exact ⟨by simp [turned, unreadable], fun readable => absurd unreadable readable⟩
  | some t =>
    have readable : ¬ (q.source.IsUnreadable ∨ q.destination.IsUnreadable) := by
      rw [← target?_eq_none, target]
      simp
    have silent : outcome.problems = [] := lookUp_problems target
    have found : outcome.found.full = (search t records).full.toList := by
      simp only [outcome, lookUp_found target, Search.matches]
    refine ⟨by simp [silent, readable], fun _ => ⟨silent, fun m member => ?_, fun ended r among any any' => ?_⟩⟩
    · rw [found] at member
      exact anyAddress_of_found target member
    · rw [found, ← target?_query target]
      rw [lookUp_failure target] at ended
      exact mem_of_isMatch ended among (isMatch_anyAddress any any')

/-- A prefix length beyond its bound: the record of everything is found, and the one of its network is not. -/
theorem malformed_turned_down_iff_length :
    let everything : Record := { source := "0/0", destination := "0/0" }
    let network : Record := { source := "2001:0db8:0000:0000:0000:0000:0000:0000/32", destination := "0/0" }
    let q : Query := { source := ⟨"2001:db8::1/129", .v6⟩ }
    Query.ofLine? "2001:db8::1/129" = some q ∧ q.source.IsMalformed ∧
      ¬ (q.source.IsUnreadable ∨ q.destination.IsUnreadable) ∧
      (lookUp [network, everything] q).problems = [] ∧
      ⟨q.tag, everything⟩ ∈ (lookUp [network, everything] q).found.full ∧
      ⟨q.tag, network⟩ ∉ (lookUp [network, everything] q).found.full := by
  intro everything network q
  have senseless : ∀ asked, ¬ q.source.AsksFor asked := by
    intro asked asks
    obtain ⟨f, text, kind, canonical, asks⟩ := canonical?_asks asks (by decide)
    obtain rfl : f = .v6 := by cases f <;> first | rfl | cases kind
    have full : q.source.canonical? = some "2001:0db8:0000:0000:0000:0000:0000:0001/129" := by decide +kernel
    obtain rfl := Option.some.inj (full.symm.trans canonical)
    obtain ⟨c, read, _⟩ := asks.cidr
    have none : (Cidr.read? .v6 "2001:0db8:0000:0000:0000:0000:0000:0001/129").toOption = some none := by
      decide +kernel
    rw [read] at none
    cases none
  have malformed : q.source.IsMalformed := ⟨by decide, ⟨.v6, rfl⟩, senseless⟩
  have readable : ¬ (q.source.IsUnreadable ∨ q.destination.IsUnreadable) := by
    rintro (⟨_, _, host⟩ | ⟨given, _⟩)
    · exact absurd host (by decide +kernel)
    · exact absurd given (by decide)
  obtain ⟨silent, only, all⟩ := (malformed_turned_down_iff [network, everything] q).2 readable
  refine ⟨by decide +kernel, malformed, readable, silent, all (by decide +kernel) everything (by simp) rfl rfl, ?_⟩
  intro found
  have any : network.source = Field.anyAddress := (only _ found).1 malformed
  exact absurd any (by decide)

/-- An octet that is too large, and a prefix length that is: both queries are read, both find the record of
everything, and no problem is noted. -/
theorem malformed_address_found :
    let everything : Record := { list := "inside", line := 1, action := "permit", protocol := "ip"
                                 source := "0/0", destination := "0/0" }
    let octet : Query := { source := ⟨"10.0.0.256/32", .v4⟩ }
    let length : Query := { destination := ⟨"2001:db8::1/129", .v6⟩ }
    Query.ofLine? "10.0.0.256/32" = some octet ∧ Family.v4.read? "10.0.0.256" = none ∧
      (lookUp [everything] octet).found.full = [⟨"from_10.0.0.256/32", everything⟩] ∧
      (lookUp [everything] octet).problems = [] ∧
      Query.ofLine? ",2001:db8::1/129" = some length ∧
      (lookUp [everything] length).found.full = [⟨"to_2001:db8::1/129", everything⟩] ∧
      (lookUp [everything] length).problems = [] := by
  decide +kernel

end Lookup
end AccessList
