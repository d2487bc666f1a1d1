import AccessList.Proofs.Lookup.Shadowing

/-! Which matches take effect. The search goes by the denials whose destination field says outright that
it is everything; in one list a match takes effect just when no such denial comes before it. A denial
that reaches all traffic of the query through a narrower field is passed over. -/
namespace AccessList.Lookup

variable {field : String} {asked covered source destination : Set Host} {q : Query} {t : Target}
  {r d : Record} {before records : List Record} {list : String}

/-- A look-up files a record, which comes after `before`, under its matches. -/
def IsFound (q : Query) (before : List Record) (r : Record) : Prop :=
  (lookUp (before ++ [r]) q).found.full = (lookUp before q).found.full ++ [⟨q.tag, r⟩]

/-- A look-up files a record, which comes after `before`, under its matches and under the effective
ones. -/
structure TakesEffect (q : Query) (before : List Record) (r : Record) : Prop where
  full : IsFound q before r
  effective :
    (lookUp (before ++ [r]) q).found.effective = (lookUp before q).found.effective ++ [⟨q.tag, r⟩]

/-- The destination field is the one for everything, or, for a query that gives both sides or none, the
one for everything in the family of the destination. -/
def IsSweeping (q : Query) (d : Record) : Prop :=
  d.destination = Field.anyAddress ∨ q.source.isGiven = q.destination.isGiven ∧
    (q.destination.kind = .v4 ∧ d.destination = Field.anyAddress4 ∨
      q.destination.kind = .v6 ∧ d.destination = Field.anyAddress6)

/-- Only one field covers the addresses of both families. -/
theorem eq_anyAddress_of_covers (covers : FieldCovers field covered) (all : Set.univ ⊆ covered) :
    field = Field.anyAddress := by
  have narrow {f : Family} {s : Set (Address f)} (inside : Set.univ ⊆ f.hosts s) : False := by
    have other (g : Family) : g = f :=
      Family.hosts_subset_same (s := Set.univ) (t := s) ⟨0, trivial⟩
        ((Set.subset_univ _).trans inside)
    cases (other .v4).trans (other .v6).symm
  cases covers with
  | all => rfl
  | block | range => exact (narrow all).elim

theorem holds_univ_iff : Holds field Set.univ ↔ field = Field.anyAddress := by
  constructor
  · rintro ⟨covered, covers, all⟩
    exact eq_anyAddress_of_covers covers all
  · rintro rfl
    exact ⟨Set.univ, .all, subset_rfl⟩

theorem side_complete {a : QueryAddress} (asks : a.AsksFor asked) (holds : Holds field asked) :
    ∃ text, comparedText? a = some text ∧ isWithin field text a.kind = .ok true := by
  rcases given_or_absent asks with given | ⟨rfl, rfl⟩
  · obtain ⟨f, text, kind, canonical, asksText⟩ := canonical?_asks asks given
    obtain ⟨covered, covers, inside⟩ := holds
    obtain ⟨b, answer, exact⟩ := isWithin_iff_subset covers asksText
    obtain rfl : b = true := exact.mpr inside
    exact ⟨text, by simp [comparedText?, given, canonical], kind ▸ answer⟩
  · obtain rfl := holds_univ_iff.mp holds
    exact ⟨"", rfl, rfl⟩

theorem isMatch_of_deniesAll (asks : q.AsksFor source destination) (target : target? q = some t)
    (denies : d.DeniesAll source destination) : isMatch t d = .ok true := by
  obtain ⟨text, compared, within⟩ := side_complete asks.source denies.source
  obtain ⟨text', compared', within'⟩ := side_complete asks.destination denies.destination
  obtain rfl : ⟨q, text, text'⟩ = t := by
    rw [target?_eq, compared, compared'] at target
    simpa using target
  exact isMatch_iff.mpr ⟨fun _ => within, fun _ => within'⟩

theorem source_any (asks : q.AsksFor source destination) (denies : d.DeniesAll source destination)
    (absent : q.source.isGiven = false) : d.source = Field.anyAddress := by
  rcases given_or_absent asks.source with given | ⟨_, rfl⟩
  · simp [given] at absent
  · exact holds_univ_iff.mp denies.source

theorem destination_any (asks : q.AsksFor source destination)
    (denies : d.DeniesAll source destination) (absent : q.destination.isGiven = false) :
    d.destination = Field.anyAddress := by
  rcases given_or_absent asks.destination with given | ⟨_, rfl⟩
  · simp [given] at absent
  · exact holds_univ_iff.mp denies.destination

/-- Of the entries that deny all traffic, the search goes by the sweeping ones. -/
theorem shadows_iff_sweeping (asks : q.AsksFor source destination)
    (denies : d.DeniesAll source destination) : shadows q d = true ↔ IsSweeping q d := by
  rw [shadows_iff]
  constructor
  · rintro ⟨_, _, _, ⟨_, any⟩ | ⟨_, any⟩ | family⟩
    · exact .inl any
    · exact .inl any
    · exact .inr family
  · intro sweeping
    refine ⟨denies.action, denies.active, denies.protocol, ?_⟩
    rcases sweeping with any | family
    · by_cases looked : q.source.isGiven = true ∨ q.destination.isGiven = false
      · exact .inr (.inl ⟨looked, any⟩)
      · rw [not_or, Bool.not_eq_true] at looked
        exact .inl ⟨source_any asks denies looked.1, any⟩
    · exact .inr (.inr family)

theorem sweeping_of_absent (asks : q.AsksFor source destination)
    (absent : q.destination.isGiven = false) (denies : d.DeniesAll source destination) :
    IsSweeping q d :=
  .inl (destination_any asks denies absent)

theorem matched_shadows_iff (asks : q.AsksFor source destination) (target : target? q = some t)
    (readable : d.HasReadableFields) {matched : Bool} (answer : isMatch t d = .ok matched) :
    (matched && shadows q d) = true ↔ d.DeniesAll source destination ∧ IsSweeping q d := by
  obtain ⟨_, b, answer', sound⟩ := isMatch_sound asks target readable
  obtain rfl : matched = b := by
    rw [answer] at answer'
    exact Except.ok.inj answer'
  rw [Bool.and_eq_true]
  constructor
  · rintro ⟨found, shadowing⟩
    obtain ⟨inSource, inDestination⟩ := sound found
    have denies := shadows_denies inSource inDestination shadowing
    exact ⟨denies, (shadows_iff_sweeping asks denies).mp shadowing⟩
  · rintro ⟨denies, sweeping⟩
    have found := isMatch_of_deniesAll asks target denies
    rw [answer] at found
    exact ⟨Except.ok.inj found, (shadows_iff_sweeping asks denies).mpr sweeping⟩

theorem hides_visit {s : Search} {matched : Bool} (fine : s.failure = none)
    (answer : isMatch t r = .ok matched) (named : r.list ≠ "") :
    (visit t s r).hides r.list = (matched && shadows t.query r || s.hides r.list) := by
  rw [visit_ok fine answer]
  by_cases start : (matched && shadows t.query r) = true
  · simp [Search.hides, Search.found, start, named]
  · by_cases same : s.shadowed = r.list <;> simp [Search.hides, Search.found, start, same, named]

/-- A list is hidden from its first sweeping denial on. A list without a name never is. -/
theorem search_hides_iff (asks : q.AsksFor source destination) (target : target? q = some t)
    (named : list ≠ "") (readable : ∀ d ∈ before, d.HasReadableFields)
    (one : ∀ d ∈ before, d.list = list) :
    (search t before).hides list = true ↔
      ∃ d ∈ before, d.DeniesAll source destination ∧ IsSweeping q d := by
  induction before using List.reverseRecOn with
  | nil => simp [search, Search.hides, Ne.symm named]
  | append_singleton before r ih =>
    have earlier := ih (fun d member => readable d (List.mem_append_left _ member))
      (fun d member => one d (List.mem_append_left _ member))
    have start := search_explained asks target before fun d member =>
      readable d (List.mem_append_left _ member)
    have last : r.HasReadableFields := readable r (by simp)
    obtain ⟨rfl, matched, answer, _⟩ := isMatch_sound asks target last
    obtain rfl : r.list = list := one r (by simp)
    rw [search_concat, hides_visit start.fine answer named, Bool.or_eq_true, earlier,
      matched_shadows_iff asks target last answer]
    simp only [List.mem_append, List.mem_singleton, or_and_right, exists_or, exists_eq_left, or_comm]

theorem hides_unnamed (s : Search) : s.hides "" = false := by
  simp [Search.hides]

theorem append_ite_eq {α : Type} (l : List α) (x : α) (b : Bool) :
    l ++ (if b then [x] else []) = l ++ [x] ↔ b = true := by
  cases b <;> simp

/-- A match at its place takes effect unless it is inactive or its list is hidden. -/
theorem takesEffect_iff_not_hides (asks : q.AsksFor source destination) (target : target? q = some t)
    (readable : ∀ d ∈ before ++ [r], d.HasReadableFields) :
    TakesEffect q before r ↔
      IsFound q before r ∧ r.isActive = true ∧ (search t before).hides r.list = false := by
  obtain ⟨matched, full, effective⟩ := lookUp_concat asks target readable
  have found : IsFound q before r ↔ matched = true := by
    rw [IsFound, full, append_ite_eq]
  have effect : (lookUp (before ++ [r]) q).found.effective =
      (lookUp before q).found.effective ++ [⟨q.tag, r⟩] ↔
        matched = true ∧ r.isActive = true ∧ (search t before).hides r.list = false := by
    rw [effective, append_ite_eq]
    simp [and_assoc]
  constructor
  · intro ⟨isFound, takes⟩
    exact ⟨isFound, (effect.mp takes).2⟩
  · intro ⟨isFound, active, shown⟩
    exact ⟨isFound, effect.mpr ⟨found.mp isFound, active, shown⟩⟩

theorem takesEffect_of_mem {m : Match} (asks : q.AsksFor source destination)
    (target : target? q = some t) (readable : ∀ d ∈ records, d.HasReadableFields)
    (effective : m ∈ (lookUp records q).found.effective) :
    ∃ before after, records = before ++ m.record :: after ∧ TakesEffect q before m.record := by
  induction records using List.reverseRecOn with
  | nil =>
    rw [lookUp_found target] at effective
    cases effective
  | append_singleton before r ih =>
    obtain ⟨matched, full, grown⟩ := lookUp_concat asks target readable
    rw [grown, List.mem_append] at effective
    rcases effective with earlier | last
    · obtain ⟨first, rest, rfl, takes⟩ :=
        ih (fun d member => readable d (List.mem_append_left _ member)) earlier
      exact ⟨first, rest ++ [r], by simp, takes⟩
    · obtain ⟨takes, rfl⟩ : (matched && r.isActive && !(search t before).hides r.list) = true ∧
          m = ⟨q.tag, r⟩ := by
        split at last
        · next takes => exact ⟨takes, List.mem_singleton.mp last⟩
        · cases last
      have found : matched = true := by simp_all
      refine ⟨before, [], rfl, ?_, ?_⟩
      · rw [IsFound, full, found]
        rfl
      · rw [grown, takes]
        rfl

/-- In one list a match takes effect just when it is active and no sweeping denial of all traffic comes
before it. The effective matches are those at each place in turn. For a query without a destination
every denial of all traffic is sweeping. -/
theorem effective_iff_unswept (asks : q.AsksFor source destination)
    (readable : ∀ d ∈ records, d.HasReadableFields) (one : ∀ d ∈ records, d.list = list) :
    (lookUp records q).failure = none ∧
      (∀ m ∈ (lookUp records q).found.effective, ∃ before after,
        records = before ++ m.record :: after ∧ TakesEffect q before m.record) ∧
      (∀ before r after, records = before ++ r :: after →
        (lookUp (before ++ [r]) q).found.effective <+: (lookUp records q).found.effective ∧
        (TakesEffect q before r ↔ IsFound q before r ∧ r.isActive = true ∧
          (list = "" ∨ ∀ d ∈ before, d.DeniesAll source destination → ¬ IsSweeping q d))) ∧
      (q.destination.isGiven = false →
        ∀ d : Record, d.DeniesAll source destination → IsSweeping q d) := by
  obtain ⟨t, target⟩ := target?_asks asks
  have whole := search_explained asks target records readable
  refine ⟨(lookUp_failure target).trans whole.fine,
    fun m effective => takesEffect_of_mem asks target readable effective, ?_,
    fun absent d denies => sweeping_of_absent asks absent denies⟩
  rintro before r after rfl
  have split : before ++ r :: after = (before ++ [r]) ++ after := by simp
  rw [split] at readable one ⊢
  have place : ∀ d ∈ before ++ [r], d.HasReadableFields :=
    fun d member => readable d (List.mem_append_left _ member)
  have earlier {d : Record} (member : d ∈ before) : d ∈ before ++ [r] ++ after := by simp [member]
  obtain rfl : r.list = list := one r (by simp)
  have grows := lookUp_prefix target (before ++ [r]) after
  refine ⟨grows.2, ?_⟩
  rw [takesEffect_iff_not_hides asks target place]
  refine and_congr_right fun _ => and_congr_right fun _ => ?_
  by_cases named : r.list = ""
  · simp [named, hides_unnamed]
  · rw [← Bool.not_eq_true, search_hides_iff asks target named
      (fun d member => readable d (earlier member)) (fun d member => one d (earlier member))]
    simp [named]

def hostQuery : Query := ⟨{}, ⟨"10.0.0.1/32", .v4⟩⟩

theorem hostQuery_asks :
    hostQuery.AsksFor Set.univ (Family.v4.hosts (Address.block 32 0x0a000001#32)) :=
  ⟨.absent, .sized (f := .v4) (.network (f := .v4) (a := "10.0.0.1") (p := "32") (by decide +kernel)
    ⟨[3, 2], by decide⟩ (by decide) ⟨0x0a000001, by decide⟩)⟩

theorem anyAddress_readable : IsReadable Field.anyAddress := .inl ⟨_, .all⟩

/-- A denial of everything, and a permit of the host that comes too late. -/
theorem effective_iff_unswept_any :
    let d : Record := { list := "inside", action := "deny", protocol := "ip", source := "0/0",
                        destination := "0/0" }
    let r : Record := { list := "inside", action := "permit", protocol := "tcp", source := "0/0",
                        destination := "0/0" }
    hostQuery.AsksFor Set.univ (Family.v4.hosts (Address.block 32 0x0a000001#32)) ∧
      (∀ e ∈ [d, r], e.HasReadableFields) ∧ (∀ e ∈ [d, r], e.list = "inside") ∧
      d.DeniesAll Set.univ (Family.v4.hosts (Address.block 32 0x0a000001#32)) ∧ IsSweeping hostQuery d ∧
      ¬ TakesEffect hostQuery [d] r := by
  intro d r
  have readable : ∀ e ∈ [d, r], e.HasReadableFields := by
    intro e member
    simp only [List.mem_cons, List.not_mem_nil, or_false] at member
    rcases member with rfl | rfl <;> exact ⟨anyAddress_readable, anyAddress_readable⟩
  have one : ∀ e ∈ [d, r], e.list = "inside" := by simp [d, r]
  have denies : d.DeniesAll Set.univ (Family.v4.hosts (Address.block 32 0x0a000001#32)) :=
    ⟨by decide, rfl, rfl, ⟨_, .all, subset_rfl⟩, ⟨_, .all, Set.subset_univ _⟩⟩
  have sweeping : IsSweeping hostQuery d := .inl rfl
  refine ⟨hostQuery_asks, readable, one, denies, sweeping, fun takes => ?_⟩
  obtain ⟨_, _, places, _⟩ := effective_iff_unswept hostQuery_asks readable one
  obtain ⟨_, _, unnamed | unswept⟩ := (places [d] r [] rfl).2.mp takes
  · exact absurd unnamed (by decide)
  · exact unswept d (List.mem_singleton_self d) denies sweeping

/-- A denial of all that goes to the network of the host is passed over: the permit after it takes
effect. -/
theorem narrow_denial_overlooked :
    let d : Record := { list := "inside", action := "deny", protocol := "ip", source := "0/0",
                        destination := "10.0.0.0/8" }
    let r : Record := { list := "inside", action := "permit", protocol := "ip", source := "0/0",
                        destination := "0/0" }
    hostQuery.AsksFor Set.univ (Family.v4.hosts (Address.block 32 0x0a000001#32)) ∧
      (∀ e ∈ [d, r], e.HasReadableFields) ∧ (∀ e ∈ [d, r], e.list = "inside") ∧
      d.DeniesAll Set.univ (Family.v4.hosts (Address.block 32 0x0a000001#32)) ∧
      TakesEffect hostQuery [d] r ∧ ⟨hostQuery.tag, r⟩ ∈ (lookUp [d, r] hostQuery).found.effective := by
  intro d r
  have network : FieldCovers "10.0.0.0/8" (Family.v4.hosts (Address.block 8 0x0a000000#32)) :=
    .block (f := .v4) (a := "10.0.0.0") (p := "8") (by decide +kernel) ⟨[8], by decide⟩ (by decide)
  have readable : ∀ e ∈ [d, r], e.HasReadableFields := by
    intro e member
    simp only [List.mem_cons, List.not_mem_nil, or_false] at member
    rcases member with rfl | rfl
    · exact ⟨anyAddress_readable, .inl ⟨_, network⟩⟩
    · exact ⟨anyAddress_readable, anyAddress_readable⟩
  have inside : Family.v4.hosts (Address.block 32 0x0a000001#32) ⊆
      Family.v4.hosts (Address.block 8 0x0a000000#32) := by
    rw [Family.hosts_subset_hosts, Address.block_subset_block (by decide) (by decide)]
    decide +kernel
  exact ⟨hostQuery_asks, readable, by simp [d, r],
    ⟨by decide, rfl, rfl, ⟨_, .all, subset_rfl⟩, ⟨_, network, inside⟩⟩,
    ⟨by unfold IsFound; decide +kernel, by decide +kernel⟩, by decide +kernel⟩

end AccessList.Lookup
