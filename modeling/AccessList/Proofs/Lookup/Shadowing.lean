import AccessList.Proofs.Address.FullForm
import AccessList.Proofs.Lookup.Containment
import AccessList.Proofs.Lookup.Scan
import Mathlib.Data.List.Induction

/-! Shadowing. A match that takes no effect comes after an entry of its list that denies all traffic the
query asks for. Along the search, the list that is kept as shadowed always has such an entry. -/
namespace AccessList

open Text Lookup

/-- What one side of a query asks for: every address where the side is not given, and one host where an
address of version 6 has no prefix length. -/
inductive QueryAddress.AsksFor : QueryAddress → Set Host → Prop where
  | absent : AsksFor {} Set.univ
  | sized {f : Family} {text : String} {asked : Set Host} (asks : Asks f text asked) :
      AsksFor ⟨text, f.kind⟩ asked
  | bare {text : String} {address : Address .v6} (read : Family.v6.read? text = some address) :
      AsksFor ⟨text, .v6⟩ (Family.v6.hosts {address})

structure Query.AsksFor (q : Query) (source destination : Set Host) : Prop where
  source : q.source.AsksFor source
  destination : q.destination.AsksFor destination

/-- Fields that a containment test can read: those that cover addresses, and those without a slash,
such as domain names. -/
def Lookup.IsReadable (field : String) : Prop :=
  (∃ covered, FieldCovers field covered) ∨ '/' ∉ field.toList

structure Record.HasReadableFields (r : Record) : Prop where
  source : IsReadable r.source
  destination : IsReadable r.destination

def Lookup.Holds (field : String) (asked : Set Host) : Prop :=
  ∃ covered, FieldCovers field covered ∧ asked ⊆ covered

/-- An active entry that denies every protocol between all of these addresses. -/
structure Record.DeniesAll (r : Record) (source destination : Set Host) : Prop where
  active : r.isActive = true
  action : r.action = "deny"
  protocol : r.protocol = "ip"
  source : Holds r.source source
  destination : Holds r.destination destination

namespace Lookup

variable {f : Family} {field text : String} {asked source destination : Set Host} {q : Query}
  {t : Target} {r : Record} {before after : List Record}

theorem isInRange_sound (asks : Asks f text asked) (colon : has ':' field = decide (f = .v6))
    (dash : '-' ∈ field.toList) (special : field ≠ Field.anyAddress) :
    ∃ b, isWithin field text f.kind = .ok b ∧ (b = true → Holds field asked) := by
  cases ends : Address.readRange? f field with
  | none =>
    obtain ⟨c, readText, _⟩ := asks.cidr
    refine ⟨false, ?_, by simp⟩
    rw [isWithin_field special, isInField_range colon dash]
    simp [Address.isInRange, readText, ends, bind, Except.bind, pure, Except.pure]
  | some ends' =>
    simp only [Address.readRange?, Option.bind_eq_bind, Option.bind_eq_some_iff] at ends
    obtain ⟨⟨a, b⟩, split, low, readLow, high, readHigh, _⟩ := ends
    obtain rfl : field = s!"{a}-{b}" := join_of_cut rfl split
    have covers := FieldCovers.range readLow readHigh
    obtain ⟨b, answer, exact⟩ := isWithin_iff_subset covers asks
    exact ⟨b, answer, fun yes => ⟨_, covers, exact.mp yes⟩⟩

/-- A field that the test says yes to covers addresses, among them all that are asked for. -/
theorem isWithin_sound (readable : IsReadable field) (asks : Asks f text asked) :
    ∃ b, isWithin field text f.kind = .ok b ∧ (b = true → Holds field asked) := by
  rcases readable with ⟨covered, covers⟩ | slash
  · obtain ⟨b, answer, exact⟩ := isWithin_iff_subset covers asks
    exact ⟨b, answer, fun yes => ⟨covered, covers, exact.mp yes⟩⟩
  have special : field ≠ Field.anyAddress := by
    rintro rfl
    exact slash (by decide)
  by_cases colon : has ':' field = decide (f = .v6)
  · by_cases dash : '-' ∈ field.toList
    · exact isInRange_sound asks colon dash special
    · have noDash : has '-' field = false := by simpa [has] using dash
      have noSlash : has '/' field = false := by simpa [has] using slash
      refine ⟨false, ?_, by simp⟩
      simp [isWithin_field special, isInField, colon, noDash, noSlash, pure, Except.pure]
  · exact ⟨false, by rw [isWithin_field special, isInField_other colon], by simp⟩

theorem Asks.full (asks : Asks .v6 text asked) : ∃ full,
    Text.has '/' text = true ∧ Address.beforeSlash Address.full? text = some full ∧
      Asks .v6 full asked := by
  cases asks with
  | @network a p address length read decimal bound first =>
    have slash : '/' ∈ s!"{a}/{p}".toList := mem_join_self rfl
    exact ⟨_, has_iff.mpr slash, Address.beforeSlash_full? read,
      .network (Address.Hextets.read?_full address) decimal bound first⟩
  | @host a p address length read decimal bound inner =>
    have slash : '/' ∈ s!"{a}/{p}".toList := mem_join_self rfl
    exact ⟨_, has_iff.mpr slash, Address.beforeSlash_full? read,
      .host (Address.Hextets.read?_full address) decimal bound inner⟩

theorem canonical?_asks {a : QueryAddress} (asks : a.AsksFor asked) (given : a.isGiven = true) :
    ∃ f text, a.kind = Family.kind f ∧ a.canonical? = some text ∧ Asks f text asked := by
  cases asks with
  | absent => simp [QueryAddress.isGiven] at given
  | @sized f text asked asks =>
    cases f with
    | v4 => exact ⟨.v4, text, rfl, by simp [QueryAddress.canonical?, Family.kind], asks⟩
    | v6 =>
      obtain ⟨full, slash, change, asksFull⟩ := asks.full
      exact ⟨.v6, full, rfl, by simp [QueryAddress.canonical?, Family.kind, slash, change], asksFull⟩
  | @bare text address read =>
    have noSlash : has '/' text = false := by
      simpa [has] using Address.not_mem_of_spelling read (c := '/') (by decide)
    have change := Address.beforeSlash_full? (p := "128") read
    have decimal : Numeral.IsDecimal "128" 128 := ⟨[1, 2, 8], by decide⟩
    have whole : Address.IsFirst 128 address := ⟨address.toNat, by simp [Address.blockSize]⟩
    have alone : Family.v6.hosts (Address.block 128 address) = Family.v6.hosts {address} := by
      rw [← Address.block_width]
    have asks := Asks.network (f := .v6) (Address.Hextets.read?_full address) decimal (Nat.le_refl _) whole
    rw [alone] at asks
    refine ⟨.v6, _, rfl, ?_, asks⟩
    simp only [QueryAddress.canonical?, noSlash, Bool.false_eq_true, ↓reduceIte]
    rw [Address.slash_host _ rfl, change]

/-- The text that a side is compared by, as the target of the query has it. -/
def comparedText? (a : QueryAddress) : Option String := if a.isGiven then a.canonical? else some ""

theorem target?_eq (q : Query) : target? q = (comparedText? q.source).bind fun source =>
    (comparedText? q.destination).map fun destination => ⟨q, source, destination⟩ := by
  unfold target? comparedText?
  cases q.source.isGiven <;> cases q.destination.isGiven <;> simp [Option.map_eq_bind]

theorem given_or_absent {a : QueryAddress} (asks : a.AsksFor asked) :
    a.isGiven = true ∨ a = {} ∧ asked = Set.univ := by
  have nonempty {c : Char} {s : String} (member : c ∈ s.toList) : (!s.isEmpty) = true := by
    rw [Bool.not_eq_true', ← Bool.not_eq_true, String.isEmpty_iff]
    rintro rfl
    simp at member
  cases asks with
  | absent => exact .inr ⟨rfl, rfl⟩
  | sized asks =>
    cases asks with
    | network | host => exact .inl (nonempty (mem_join_self rfl))
  | bare read => exact .inl (nonempty ((Address.colon_mem_iff read).mpr rfl))

theorem side_sound {a : QueryAddress} (asks : a.AsksFor asked) (readable : IsReadable field) :
    ∃ text b, comparedText? a = some text ∧ isWithin field text a.kind = .ok b ∧
      (b = true → Holds field asked) := by
  rcases given_or_absent asks with given | ⟨rfl, rfl⟩
  · obtain ⟨f, text, kind, canonical, asksText⟩ := canonical?_asks asks given
    obtain ⟨b, answer, sound⟩ := isWithin_sound readable asksText
    exact ⟨text, b, by simp [comparedText?, given, canonical], kind ▸ answer, sound⟩
  · refine ⟨"", decide (field = Field.anyAddress), rfl, ?_, ?_⟩
    · by_cases any : field = Field.anyAddress <;> simp [isWithin, any, pure, Except.pure]
    · intro yes
      obtain rfl : field = Field.anyAddress := by simpa using yes
      exact ⟨Set.univ, .all, subset_rfl⟩

theorem target?_asks (asks : q.AsksFor source destination) : ∃ t, target? q = some t := by
  obtain ⟨text, _, compared, _⟩ := side_sound asks.source (.inl ⟨_, .all⟩)
  obtain ⟨text', _, compared', _⟩ := side_sound asks.destination (.inl ⟨_, .all⟩)
  exact ⟨_, by rw [target?_eq, compared, compared']; rfl⟩

/-- A match holds what the query asks for in every field that is looked at. -/
theorem isMatch_sound (asks : q.AsksFor source destination) (target : target? q = some t)
    (readable : r.HasReadableFields) : t.query = q ∧ ∃ b, isMatch t r = .ok b ∧ (b = true →
      (q.source.isGiven = true ∨ q.destination.isGiven = false → Holds r.source source) ∧
      (q.destination.isGiven = true ∨ q.source.isGiven = false → Holds r.destination destination)) := by
  obtain ⟨text, b, compared, answer, sound⟩ := side_sound asks.source readable.source
  obtain ⟨text', b', compared', answer', sound'⟩ := side_sound asks.destination readable.destination
  obtain rfl : ⟨q, text, text'⟩ = t := by
    rw [target?_eq, compared, compared'] at target
    simpa using target
  have answers : ∃ matched, isMatch ⟨q, text, text'⟩ r = .ok matched := by
    cases given : q.source.isGiven <;> cases given' : q.destination.isGiven <;> cases b <;>
      simp [isMatch, given, given', answer, answer', bind, Except.bind, pure, Except.pure]
  obtain ⟨matched, found⟩ := answers
  refine ⟨rfl, matched, found, fun yes => ?_⟩
  have held := isMatch_iff.mp (found.trans (congrArg _ yes))
  exact ⟨fun looked => sound (Except.ok.inj (answer.symm.trans (held.source looked))),
    fun looked => sound' (Except.ok.inj (answer'.symm.trans (held.destination looked)))⟩

theorem shadows_denies
    (inSource : q.source.isGiven = true ∨ q.destination.isGiven = false → Holds r.source source)
    (inDestination : q.destination.isGiven = true ∨ q.source.isGiven = false →
      Holds r.destination destination)
    (shadowing : shadows q r = true) : r.DeniesAll source destination := by
  have everything (asked : Set Host) {field : String} (any : field = Field.anyAddress) :
      Holds field asked := ⟨Set.univ, any ▸ .all, Set.subset_univ asked⟩
  obtain ⟨action, active, protocol, fields⟩ := shadows_iff.mp shadowing
  rcases fields with ⟨any, any'⟩ | ⟨looked, any⟩ | ⟨same, _⟩
  · exact ⟨active, action, protocol, everything source any, everything destination any'⟩
  · exact ⟨active, action, protocol, inSource looked, everything destination any⟩
  · have sourceSide : q.source.isGiven = true ∨ q.destination.isGiven = false := by
      rw [← same]
      exact Bool.eq_false_or_eq_true _
    have destinationSide : q.destination.isGiven = true ∨ q.source.isGiven = false := by
      rw [same]
      exact Bool.eq_false_or_eq_true _
    exact ⟨active, action, protocol, inSource sourceSide, inDestination destinationSide⟩

/-- What holds of a search after some records: nothing has failed, and a list that is kept as shadowed
has an entry among them that denies all traffic. -/
structure Explained (source destination : Set Host) (before : List Record) (s : Search) : Prop where
  fine : s.failure = none
  shadowed : s.shadowed ≠ "" →
    ∃ d ∈ before, d.list = s.shadowed ∧ d.DeniesAll source destination

theorem visit_explained {s : Search} (asks : q.AsksFor source destination)
    (target : target? q = some t) (readable : r.HasReadableFields)
    (explained : Explained source destination before s) :
    Explained source destination (before ++ [r]) (visit t s r) := by
  obtain ⟨rfl, matched, answer, sound⟩ := isMatch_sound asks target readable
  rw [visit_ok explained.fine answer]
  refine ⟨rfl, ?_⟩
  simp only [Search.found]
  split
  · next shadowing =>
    intro _
    rw [Bool.and_eq_true] at shadowing
    obtain ⟨inSource, inDestination⟩ := sound shadowing.1
    exact ⟨r, by simp, rfl, shadows_denies inSource inDestination shadowing.2⟩
  split
  · intro kept
    obtain ⟨d, earlier, same, denies⟩ := explained.shadowed kept
    exact ⟨d, List.mem_append_left _ earlier, same, denies⟩
  · exact fun kept => absurd rfl kept

theorem search_explained (asks : q.AsksFor source destination) (target : target? q = some t)
    (records : List Record) (readable : ∀ r ∈ records, r.HasReadableFields) :
    Explained source destination records (search t records) := by
  induction records using List.reverseRecOn with
  | nil => exact ⟨rfl, fun kept => absurd rfl kept⟩
  | append_singleton before r ih =>
    rw [search_concat]
    have earlier := ih fun r member => readable r (List.mem_append_left _ member)
    exact visit_explained asks target (readable r (by simp)) earlier

/-- A look-up files a record, which comes after `before`, under its matches and not under the effective
ones. -/
structure Hidden (q : Query) (before : List Record) (r : Record) : Prop where
  full : (lookUp (before ++ [r]) q).found.full = (lookUp before q).found.full ++ [⟨q.tag, r⟩]
  effective : (lookUp (before ++ [r]) q).found.effective = (lookUp before q).found.effective

theorem lookUp_concat (asks : q.AsksFor source destination) (target : target? q = some t)
    (readable : ∀ d ∈ before ++ [r], d.HasReadableFields) : ∃ matched,
      (lookUp (before ++ [r]) q).found.full = (lookUp before q).found.full ++
        (if matched then [⟨q.tag, r⟩] else []) ∧
      (lookUp (before ++ [r]) q).found.effective = (lookUp before q).found.effective ++
        (if matched && r.isActive && !(search t before).hides r.list then [⟨q.tag, r⟩] else []) := by
  have start := search_explained asks target before fun d member =>
    readable d (List.mem_append_left _ member)
  obtain ⟨rfl, matched, answer, _⟩ := isMatch_sound asks target (readable r (by simp))
  rw [lookUp_found target, lookUp_found target, search_concat, visit_ok start.fine answer]
  refine ⟨matched, ?_, ?_⟩ <;> simp only [Search.matches, Search.found] <;> split <;> simp

/-- A record that is hidden although it is active has an entry of its list before it that denies all
traffic that is asked for. -/
theorem Hidden.denied (asks : q.AsksFor source destination) (hidden : Hidden q before r)
    (readable : ∀ d ∈ before ++ [r], d.HasReadableFields) (active : r.isActive = true) :
    ∃ d ∈ before, d.list = r.list ∧ d.DeniesAll source destination := by
  obtain ⟨t, target⟩ := target?_asks asks
  obtain ⟨matched, full, effective⟩ := lookUp_concat asks target readable
  have found : matched = true := by simpa [hidden.full] using full
  have hides : (search t before).hides r.list = true := by
    simpa [hidden.effective, found, active] using effective
  simp only [Search.hides, Bool.and_eq_true, decide_eq_true_eq, Bool.not_eq_eq_eq_not, Bool.not_true,
    ← Bool.not_eq_true, String.isEmpty_iff] at hides
  have start := search_explained asks target before fun d member =>
    readable d (List.mem_append_left _ member)
  obtain ⟨d, earlier, same, denies⟩ := start.shadowed hides.2
  exact ⟨d, earlier, same.trans hides.1, denies⟩

theorem hidden_of_mem {records : List Record} {m : Match} (asks : q.AsksFor source destination)
    (target : target? q = some t) (readable : ∀ d ∈ records, d.HasReadableFields)
    (found : m ∈ (lookUp records q).found.full)
    (ineffective : m ∉ (lookUp records q).found.effective) :
    ∃ before after, records = before ++ m.record :: after ∧ Hidden q before m.record := by
  induction records using List.reverseRecOn with
  | nil =>
    rw [lookUp_found target] at found
    cases found
  | append_singleton before r ih =>
    obtain ⟨matched, full, effective⟩ := lookUp_concat asks target readable
    rw [full, List.mem_append] at found
    rw [effective, List.mem_append, not_or] at ineffective
    rcases found with earlier | last
    · obtain ⟨first, rest, rfl, hidden⟩ := ih (fun d member => readable d (List.mem_append_left _ member))
        earlier ineffective.1
      exact ⟨first, rest ++ [r], by simp, hidden⟩
    · cases matched with
      | false => simp at last
      | true =>
        obtain rfl : m = ⟨q.tag, r⟩ := by simpa using last
        have quiet : ¬ (true && r.isActive && !(search t before).hides r.list) = true := by
          intro takesEffect
          rw [if_pos takesEffect] at ineffective
          exact ineffective.2 (List.mem_singleton_self _)
        rw [if_neg quiet, List.append_nil] at effective
        exact ⟨before, [], rfl, full, effective⟩

/-- Shadowing is sound: an active match that takes no effect comes after an entry of its list that
denies all the traffic that is asked for. The look-up ends without a failure, and its matches are those
at each place in turn: the ones among the first records come first. -/
theorem hidden_after_denial {records : List Record} (asks : q.AsksFor source destination)
    (readable : ∀ d ∈ records, d.HasReadableFields) :
    (lookUp records q).failure = none ∧ (lookUp records q).problems = [] ∧
      (∀ before r after, records = before ++ r :: after →
        (lookUp (before ++ [r]) q).found.full <+: (lookUp records q).found.full ∧
        (lookUp (before ++ [r]) q).found.effective <+: (lookUp records q).found.effective ∧
        (r.isActive = true → Hidden q before r →
          ∃ d ∈ before, d.list = r.list ∧ d.DeniesAll source destination)) ∧
      (∀ m ∈ (lookUp records q).found.full, m ∉ (lookUp records q).found.effective →
        ∃ before after, records = before ++ m.record :: after ∧ Hidden q before m.record) := by
  obtain ⟨t, target⟩ := target?_asks asks
  have whole := search_explained asks target records readable
  refine ⟨(lookUp_failure target).trans whole.fine, lookUp_problems target, ?_,
    fun m found ineffective => hidden_of_mem asks target readable found ineffective⟩
  rintro before r after rfl
  have split : before ++ r :: after = (before ++ [r]) ++ after := by simp
  rw [split] at readable ⊢
  obtain ⟨full, effective⟩ := lookUp_prefix target (before ++ [r]) after
  refine ⟨full, effective, fun active hidden => hidden.denied asks ?_ active⟩
  exact fun d member => readable d (List.mem_append_left _ member)

/-- A permit of the queried host is hidden by a denial of its whole network. -/
theorem hidden_after_denial_network :
    let q : Query := ⟨⟨"10.1.2.3/32", .v4⟩, {}⟩
    let d : Record := { list := "inside", action := "deny", protocol := "ip", source := "10.0.0.0/8",
                        destination := "0/0" }
    let r : Record := { list := "inside", action := "permit", protocol := "tcp", source := "10.1.2.3/32",
                        destination := "www.example.org" }
    q.AsksFor (Family.v4.hosts (Address.block 32 0x0a010203#32)) Set.univ ∧
      (∀ e ∈ [d, r], e.HasReadableFields) ∧ r.isActive = true ∧ Hidden q [d] r ∧
      ∃ e ∈ [d], e.list = r.list ∧
        e.DeniesAll (Family.v4.hosts (Address.block 32 0x0a010203#32)) Set.univ := by
  intro q d r
  have asks : q.AsksFor (Family.v4.hosts (Address.block 32 0x0a010203#32)) Set.univ :=
    ⟨.sized (f := .v4) (.network (f := .v4) (a := "10.1.2.3") (p := "32") (by decide +kernel)
      ⟨[3, 2], by decide⟩ (by decide) ⟨0x0a010203, by decide⟩), .absent⟩
  have readable : ∀ e ∈ [d, r], e.HasReadableFields := by
    intro e member
    simp only [List.mem_cons, List.not_mem_nil, or_false] at member
    rcases member with rfl | rfl
    · have network : FieldCovers "10.0.0.0/8" (Family.v4.hosts (Address.block 8 0x0a000000#32)) :=
        .block (f := .v4) (a := "10.0.0.0") (p := "8") (by decide +kernel) ⟨[8], by decide⟩ (by decide)
      exact ⟨.inl ⟨_, network⟩, .inl ⟨_, .all⟩⟩
    · have host : FieldCovers "10.1.2.3/32" (Family.v4.hosts (Address.block 32 0x0a010203#32)) :=
        .block (f := .v4) (a := "10.1.2.3") (p := "32") (by decide +kernel) ⟨[3, 2], by decide⟩
          (by decide)
      exact ⟨.inl ⟨_, host⟩, .inr (by decide)⟩
  have hidden : Hidden q [d] r := ⟨by decide +kernel, by decide +kernel⟩
  obtain ⟨_, _, places, _⟩ := hidden_after_denial asks readable
  have active : r.isActive = true := by decide
  obtain ⟨_, _, denied⟩ := places [d] r [] rfl
  exact ⟨asks, readable, active, hidden, denied active hidden⟩

end Lookup
end AccessList
