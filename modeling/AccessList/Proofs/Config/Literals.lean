import AccessList.Proofs.Config.Members

/-! References to groups without members. Such a reference is kept as the alias itself, so that every group
has a member, with one exception: the first line of a group that refers to the group itself. -/
namespace AccessList.Config

variable {ms before after : List MemberLine} {m : MemberLine} {member : Member} {members : List String}
  {symbol ref : String}

/-- After these lines, a reference adds its alias to the group that it stands in, and nothing else. -/
def IsKept (before : List MemberLine) (symbol ref : String) : Prop :=
  (tableOf (before ++ [⟨symbol, .reference ref⟩])).get? symbol =
    some (((tableOf before).get? symbol).getD [] ++ [ref])

/-- Each reference that is read while its group has no members adds its alias. -/
def KeepsLiterals (ms : List MemberLine) : Prop :=
  ∀ before symbol ref after, ms = before ++ ⟨symbol, .reference ref⟩ :: after →
    ((tableOf before).get? ref).getD [] = [] → IsKept before symbol ref

/-- No group begins with a line that refers to the group itself. -/
def OpensApart (ms : List MemberLine) : Prop :=
  ∀ symbol, (linesOf ms symbol).head? ≠ some (.reference symbol)

theorem linesOf_head (first : (linesOf ms symbol).head? = some member) :
    ∃ before after, ms = before ++ ⟨symbol, member⟩ :: after ∧ linesOf before symbol = [] := by
  obtain ⟨rest, whole⟩ := List.head?_eq_some_iff.mp first
  obtain ⟨m, others, mine, rfl, _⟩ := List.map_eq_cons_iff.mp whole
  obtain ⟨before, after, rfl, none, own, _⟩ := List.filter_eq_cons_iff.mp mine
  obtain rfl : m.symbol = symbol := by simpa using own
  refine ⟨before, after, rfl, ?_⟩
  have nothing : before.filter (·.symbol = m.symbol) = [] := List.filter_eq_nil_iff.mpr none
  simp [linesOf, nothing]

theorem OpensApart.of_append (apart : OpensApart (before ++ after)) : OpensApart before := by
  intro symbol first
  apply apart symbol
  rw [linesOf_append, List.head?_append, first]
  rfl

/-- A line of an existing group may refer to that group; the line that opens it may not. -/
theorem OpensApart.opening (apart : OpensApart (before ++ m :: after)) (new : linesOf before m.symbol = []) :
    m.member ≠ .reference m.symbol := by
  intro refers
  apply apart m.symbol
  rw [linesOf_append, new]
  simp [linesOf, refers]

theorem added_ne_nil {t : Table (List String)}
    (stored : ∀ symbol members, t.get? symbol = some members → members ≠ [])
    (filled : m.member ≠ .values []) (other : m.member ≠ .reference m.symbol) : m.added t ≠ [] := by
  cases said : m.member with
  | values values =>
    rintro none
    obtain rfl : values = [] := by simpa [MemberLine.added, said] using none
    exact filled said
  | reference ref =>
    have elsewhere : ref ≠ m.symbol := by
      rintro rfl
      exact other said
    cases had : t.get? ref with
    | some own => simpa [MemberLine.added, said, had] using stored ref own had
    | none => simp [MemberLine.added, said, had, elsewhere]

/-- Where no group begins with itself, every line finds and leaves groups with members. -/
theorem members_ne_nil (apart : OpensApart ms) (filled : ∀ m ∈ ms, m.member ≠ .values [])
    (found : (tableOf ms).get? symbol = some members) : members ≠ [] := by
  induction ms using List.reverseRecOn generalizing symbol members with
  | nil => simp [tableOf, Table.get?] at found
  | append_singleton ms m ih =>
    have stored (symbol : String) (members : List String) (had : (tableOf ms).get? symbol = some members) :
        members ≠ [] :=
      ih apart.of_append (fun other among => filled other (List.mem_append_left _ among)) had
    rw [tableOf_concat, MemberLine.get?_addTo] at found
    by_cases mine : symbol = m.symbol
    · subst mine
      rw [if_pos rfl, Option.some.injEq] at found
      rw [← found]
      cases had : (tableOf ms).get? m.symbol with
      | some old => exact List.append_ne_nil_of_left_ne_nil (stored _ old had) _
      | none =>
        -- The line opens its group, so that what it adds is all that there is.
        have other := apart.opening ((get?_tableOf_eq_none ms m.symbol).mp had)
        exact added_ne_nil stored (filled m (by simp)) other
    · rw [if_neg mine] at found
      exact stored symbol members found

/-- A reference to a group without a line so far is kept, except by the line that opens that group. -/
theorem isKept_iff (absent : linesOf before ref = []) : IsKept before symbol ref ↔ ref ≠ symbol := by
  have none := (get?_tableOf_eq_none before ref).mpr absent
  rw [IsKept, tableOf_concat, MemberLine.get?_addTo]
  by_cases opens : ref = symbol
  · subst opens
    simp [MemberLine.added, none]
  · simp [MemberLine.added, none, opens]

theorem keepsLiterals_iff (filled : ∀ m ∈ ms, m.member ≠ .values []) :
    KeepsLiterals ms ↔ OpensApart ms := by
  constructor
  · intro keeps symbol first
    obtain ⟨before, after, rfl, new⟩ := linesOf_head first
    have none := (get?_tableOf_eq_none before symbol).mpr new
    have kept := keeps before symbol symbol after rfl (by rw [none]; rfl)
    exact (isKept_iff new).mp kept rfl
  · rintro apart before symbol ref after rfl none
    have filledBefore : ∀ m ∈ before, m.member ≠ .values [] :=
      fun m among => filled m (List.mem_append_left _ among)
    have absent : linesOf before ref = [] := by
      cases had : (tableOf before).get? ref with
      | none => exact (get?_tableOf_eq_none before ref).mp had
      | some own =>
        rw [had, Option.getD_some] at none
        exact absurd none (members_ne_nil apart.of_append filledBefore had)
    have other : ref ≠ symbol := by
      rintro rfl
      exact apart.opening absent rfl
    exact (isKept_iff absent).mpr other

/-- A reference to a group that no line so far defines is kept as a literal, unless it opens that group. All
references to groups without members are kept just where no group begins with a reference to itself, and then
every group has a member. -/
theorem literals_kept_iff (kind : GroupKind) (lines : List String) :
    (∀ before symbol ref after, memberLines kind lines = before ++ ⟨symbol, .reference ref⟩ :: after →
      linesOf before ref = [] → (IsKept before symbol ref ↔ ref ≠ symbol)) ∧
    (KeepsLiterals (memberLines kind lines) ↔ OpensApart (memberLines kind lines)) ∧
      (OpensApart (memberLines kind lines) → ∀ symbol members,
        ((symbols lines).groups kind).get? symbol = some members → members ≠ []) := by
  have filled : ∀ m ∈ memberLines kind lines, m.member ≠ .values [] := fun m => memberLines_ne_nil
  refine ⟨fun _ _ _ _ _ absent => isKept_iff absent, keepsLiterals_iff filled, ?_⟩
  intro apart symbol members found
  rw [groups_symbols] at found
  exact members_ne_nil apart filled found

/-- A group may refer to itself later on, and to one that is not there yet. -/
theorem literals_kept_iff_servers :
    let lines := ["object-group network servers", " group-object later", " group-object servers",
      "object-group network later", " network-object host 10.0.0.1"]
    OpensApart (memberLines .network lines) ∧ KeepsLiterals (memberLines .network lines) ∧
      ((symbols lines).groups .network).get? "servers" = some ["later", "later"] ∧ ["later", "later"] ≠ [] := by
  intro lines
  have read : memberLines .network lines = [⟨"servers", .reference "later"⟩,
      ⟨"servers", .reference "servers"⟩, ⟨"later", .values ["10.0.0.1/32"]⟩] := by decide +kernel
  have apart : OpensApart (memberLines .network lines) := by
    intro symbol first
    obtain ⟨before, after, whole, _⟩ := linesOf_head first
    have among : ⟨symbol, .reference symbol⟩ ∈ memberLines .network lines := by simp [whole]
    rw [read] at among first
    obtain rfl : symbol = "servers" := by
      have owner : symbol = "servers" ∧ symbol = "later" ∨ symbol = "servers" := by simpa using among
      exact owner.elim And.left id
    exact absurd first (by decide)
  have stored : ((symbols lines).groups .network).get? "servers" = some ["later", "later"] := by
    rw [groups_symbols, read]
    decide
  obtain ⟨_, keeps_iff, nonempty⟩ := literals_kept_iff .network lines
  exact ⟨apart, keeps_iff.mpr apart, stored, nonempty apart _ _ stored⟩

/-- A group that begins with itself has no members, nor has one that takes it. -/
theorem self_reference_empties :
    let lines := ["object-group network servers", " group-object servers", "object-group network all",
      " group-object servers"]
    ((symbols lines).groups .network).get? "servers" = some [] ∧
      ((symbols lines).groups .network).get? "all" = some [] ∧
        ¬ KeepsLiterals (memberLines .network lines) := by
  intro lines
  have read : memberLines .network lines =
      [⟨"servers", .reference "servers"⟩, ⟨"all", .reference "servers"⟩] := by decide +kernel
  rw [groups_symbols, read]
  refine ⟨by decide, by decide, fun keeps => ?_⟩
  have kept := keeps [] "servers" "servers" [⟨"all", .reference "servers"⟩] rfl rfl
  exact absurd kept (by unfold IsKept; decide)

end AccessList.Config
