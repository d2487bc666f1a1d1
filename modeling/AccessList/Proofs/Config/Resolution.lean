import AccessList.Proofs.Config.Members

/-! Groups as they are resolved while reading, and their expansion by recursion. A reference expands to what
the lines of its group expand to, or to its own alias where that group has no line. Where every reference
comes after all lines of the group that it names, one pass over the lines finds the same members. -/
namespace AccessList.Config

variable {ms before after : List MemberLine} {m : MemberLine} {said more : List Member}
  {members others : List String} {symbol ref : String}

/-- What lines of a group expand to, in their order and with all repetitions. -/
inductive Expands (ms : List MemberLine) : List Member → List String → Prop where
  | none : Expands ms [] []
  | values {values members : List String} {rest : List Member} (later : Expands ms rest members) :
      Expands ms (.values values :: rest) (values ++ members)
  | literal {ref : String} {members : List String} {rest : List Member} (undefined : linesOf ms ref = [])
      (later : Expands ms rest members) : Expands ms (.reference ref :: rest) (ref :: members)
  | group {ref : String} {own members : List String} {rest : List Member} (defined : linesOf ms ref ≠ [])
      (expansion : Expands ms (linesOf ms ref) own) (later : Expands ms rest members) :
      Expands ms (.reference ref :: rest) (own ++ members)

/-- Lines have one expansion at most. -/
theorem Expands.unique (first : Expands ms said members) (second : Expands ms said others) :
    members = others := by
  induction first generalizing others with
  | none =>
    cases second
    rfl
  | values _ ih =>
    cases second with
    | values later => rw [ih later]
  | literal undefined _ ih =>
    cases second with
    | literal _ later => rw [ih later]
    | group defined => exact absurd undefined defined
  | group defined _ _ ihOwn ih =>
    cases second with
    | literal undefined => exact absurd undefined defined
    | group _ expansion later => rw [ihOwn expansion, ih later]

theorem Expands.append (first : Expands ms said members) (second : Expands ms more others) :
    Expands ms (said ++ more) (members ++ others) := by
  induction first with
  | none => exact second
  | values _ ih =>
    rw [List.append_assoc]
    exact .values ih
  | literal undefined _ ih => exact .literal undefined ih
  | group defined expansion _ _ ih =>
    rw [List.append_assoc]
    exact .group defined expansion ih

/-- Every reference to a group of the table comes after all lines of that group. -/
structure IsOrdered (ms : List MemberLine) : Prop where
  after : ms.Pairwise fun m later => m.member ≠ .reference later.symbol
  apart : ∀ m ∈ ms, m.member ≠ .reference m.symbol

/-- When a reference is read, the lines of its group have been read. -/
theorem IsOrdered.complete (ordered : IsOrdered (before ++ m :: after)) (refers : m.member = .reference ref) :
    linesOf (before ++ m :: after) ref = linesOf before ref := by
  have none : ∀ other ∈ m :: after, other.symbol ≠ ref := by
    intro other member named
    rcases List.mem_cons.mp member with rfl | later
    · exact ordered.apart other (by simp) (named ▸ refers)
    · have pairs := (List.pairwise_append.mp ordered.after).2.1
      exact (List.pairwise_cons.mp pairs).1 other later (named ▸ refers)
  have rest : linesOf (m :: after) ref = [] := by
    rw [linesOf, List.map_eq_nil_iff, List.filter_eq_nil_iff]
    intro other member
    simpa using none other member
  rw [linesOf_append, rest, List.append_nil]

theorem expands_added (ordered : IsOrdered (before ++ m :: after))
    (stored : ∀ ref own, (tableOf before).get? ref = some own →
      Expands (before ++ m :: after) (linesOf before ref) own) :
    Expands (before ++ m :: after) [m.member] (m.added (tableOf before)) := by
  cases said : m.member with
  | values values =>
    have own : Expands (before ++ m :: after) [.values values] (values ++ []) := .values .none
    simpa [MemberLine.added, said] using own
  | reference ref =>
    have complete := ordered.complete said
    have other : ref ≠ m.symbol := by
      rintro rfl
      exact ordered.apart m (by simp) said
    cases had : (tableOf before).get? ref with
    | none =>
      have undefined := (get?_tableOf_eq_none before ref).mp had
      simpa [MemberLine.added, said, had, other] using Expands.literal (complete.trans undefined) .none
    | some own =>
      have defined : linesOf before ref ≠ [] := by
        intro none
        rw [(get?_tableOf_eq_none before ref).mpr none] at had
        cases had
      have expansion := stored ref own had
      rw [← complete] at defined expansion
      simpa [MemberLine.added, said, had] using Expands.group defined expansion .none

/-- The members that a group has so far are what its lines so far expand to. -/
theorem expands_tableOf (ordered : IsOrdered (before ++ after))
    (found : (tableOf before).get? symbol = some members) :
    Expands (before ++ after) (linesOf before symbol) members := by
  -- The lines still to come stay in the statement: expansion is told from all lines, not from those so far.
  induction before using List.reverseRecOn generalizing after symbol members with
  | nil => simp [tableOf, Table.get?] at found
  | append_singleton before m ih =>
    rw [List.append_assoc, List.singleton_append] at ordered ⊢
    rw [tableOf_concat, MemberLine.get?_addTo] at found
    rw [linesOf_concat]
    by_cases mine : symbol = m.symbol
    · rw [if_pos mine, Option.some.injEq] at found
      rw [if_pos mine.symm, ← found]
      have old : Expands (before ++ m :: after) (linesOf before symbol)
          (((tableOf before).get? symbol).getD []) := by
        cases had : (tableOf before).get? symbol with
        | none =>
          rw [(get?_tableOf_eq_none before symbol).mp had]
          exact .none
        | some earlier => exact ih ordered had
      exact old.append (expands_added ordered fun ref own had => ih ordered had)
    · rw [if_neg mine] at found
      rw [if_neg (Ne.symm mine), List.append_nil]
      exact ih ordered found

/-- Where every reference comes after all lines of its group, the groups stored are those that have a line,
and the members stored are just what the lines of the group expand to. -/
theorem groups_eq_expansion (kind : GroupKind) (lines : List String)
    (ordered : IsOrdered (memberLines kind lines)) (symbol : String) :
    (((symbols lines).groups kind).get? symbol = none ↔ linesOf (memberLines kind lines) symbol = []) ∧
      ∀ members, ((symbols lines).groups kind).get? symbol = some members ↔
        linesOf (memberLines kind lines) symbol ≠ [] ∧
          Expands (memberLines kind lines) (linesOf (memberLines kind lines) symbol) members := by
  have whole : IsOrdered (memberLines kind lines ++ []) := by rwa [List.append_nil]
  have stored {members : List String} (found : (tableOf (memberLines kind lines)).get? symbol = some members) :
      Expands (memberLines kind lines) (linesOf (memberLines kind lines) symbol) members := by
    simpa using expands_tableOf whole found
  have absent := get?_tableOf_eq_none (memberLines kind lines) symbol
  rw [groups_symbols]
  refine ⟨absent, fun members => ⟨fun found => ⟨fun none => ?_, stored found⟩, ?_⟩⟩
  · rw [absent.mpr none] at found
    cases found
  · rintro ⟨defined, expansion⟩
    cases found : (tableOf (memberLines kind lines)).get? symbol with
    | none => exact absurd (absent.mp found) defined
    | some own => rw [expansion.unique (stored found)]

/-- A group that takes another one twice, in two sections of its own, and refers to one that nobody defines. -/
theorem groups_eq_expansion_servers :
    let lines := ["object network gate", " host 10.0.0.1", "object-group network inner",
      " network-object object gate", "object-group network servers", " group-object inner",
      " group-object later", "object-group network spare", " network-object 10.1.0.0 255.255.0.0",
      "object-group network servers", " group-object inner"]
    let ms := memberLines .network lines
    IsOrdered ms ∧ ((symbols lines).groups .network).get? "later" = none ∧
      ((symbols lines).groups .network).get? "servers" = some ["10.0.0.1/32", "later", "10.0.0.1/32"] ∧
      Expands ms (linesOf ms "servers") ["10.0.0.1/32", "later", "10.0.0.1/32"] := by
  intro lines ms
  have read : ms = [⟨"inner", .values ["10.0.0.1/32"]⟩, ⟨"servers", .reference "inner"⟩,
      ⟨"servers", .reference "later"⟩, ⟨"spare", .values ["10.1.0.0/16"]⟩,
      ⟨"servers", .reference "inner"⟩] := by decide +kernel
  have ordered : IsOrdered ms := by
    rw [read]
    exact ⟨by decide, by decide⟩
  have undefined : linesOf ms "later" = [] := by rw [read]; rfl
  have stored : ((symbols lines).groups .network).get? "servers" =
      some ["10.0.0.1/32", "later", "10.0.0.1/32"] := by
    rw [groups_symbols, show memberLines .network lines = _ from read]
    decide
  obtain ⟨none_iff, _⟩ := groups_eq_expansion .network lines ordered "later"
  obtain ⟨_, expansion⟩ := groups_eq_expansion .network lines ordered "servers"
  exact ⟨ordered, none_iff.mpr undefined, stored, ((expansion _).mp stored).2⟩

end AccessList.Config
