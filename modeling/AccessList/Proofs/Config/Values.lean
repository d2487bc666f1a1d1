import AccessList.Proofs.Config.Members

/-! What the members of groups come from. Every member is a value of a line of some group, or the alias in a
reference. An alias is never empty, and only lines of networks have empty values. -/
namespace AccessList

theorem Field.orUndefined_ne_empty (text : String) : orUndefined text ≠ "" := by
  unfold orUndefined
  split
  · decide
  · next given => simpa using given

namespace Clause

variable {c : Clause} {otherwise : String}

/-- A clause whose tokens have a value. -/
def IsGiven (c : Clause) : Prop := c.taken ≠ 0 → c.value ≠ ""

theorem IsGiven.valueOr (given : c.IsGiven) (default : otherwise ≠ "") : c.valueOr otherwise ≠ "" := by
  unfold Clause.valueOr
  split
  · exact default
  · next taken => exact given taken

theorem isGiven_protocol (tokens : List String) : (protocol tokens).value.IsGiven := by
  intro taken
  simp only [protocol] at taken ⊢
  split
  · next missing => simp [missing, absent] at taken
  next given =>
  split
  · simpa using given
  · cases known : Protocol.names.lookup (token tokens) with
    | none => simpa [Protocol.canonical, known] using given
    | some n => simp [Protocol.canonical, known]

theorem isGiven_icmpType (version : IcmpVersion) (tokens : List String) : (icmpType version tokens).IsGiven := by
  intro taken
  simp only [icmpType] at taken ⊢
  split
  · next missing => simp [missing, absent] at taken
  next given =>
  split
  · simpa using given
  next integer =>
  split
  · simp
  · next unknown => simp [given, integer, unknown, absent] at taken

theorem isGiven_portCondition (family : PortFamily) (tokens : List String) :
    (portCondition family tokens).value.IsGiven := by
  intro taken
  unfold portCondition at taken ⊢
  dsimp only at taken ⊢
  split
  · simp [toString]
  next other =>
  rw [if_neg other] at taken
  split
  · rw [Noted.value_bind]
    split <;> simp [toString]
  · next noRange => simp [noRange, absent] at taken

end Clause

theorem Service.describe_ne_empty {tokens : List String} (given : Clause.token tokens ≠ "") :
    (describe tokens).value ≠ "" := by
  have taken : (Clause.protocol tokens).value.taken ≠ 0 := by
    simp only [Clause.protocol]
    split
    · next missing => simp [given] at missing
    · split <;> simp
  simp only [describe, String.isEmpty_iff, given, if_false, Noted.value_bind]
  split
  · simp [toString]
  · simp [toString]
  · simp [toString]
  · simp [toString]
  · exact Clause.isGiven_protocol tokens taken

namespace Config

open Clause

variable {kind : GroupKind} {sort : GroupSort} {s : Symbols} {ms all : List MemberLine} {m : MemberLine}
  {lines values members : List String} {symbol value : String}

theorem objectMember_ne_empty (s : Symbols) (kind : GroupKind) (tokens : List String) :
    objectMember s kind tokens ≠ "" := by
  simp only [objectMember]
  cases object : s.object? kind (Field.orUndefined (token (tokens.drop 1))) with
  | none => exact Field.orUndefined_ne_empty _
  | some value =>
    obtain ⟨objects, _, found⟩ := Option.bind_eq_some_iff.mp object
    simpa using (Option.filter_eq_some_iff.mp found).2

theorem memberValues_given (own : sort.kind? = some kind) (other : kind ≠ .network) (line : List String) :
    ∀ value ∈ (memberValues s sort line).value, value ≠ "" := by
  have literal := Field.orUndefined_ne_empty (token (line.drop 1))
  cases sort with
  | network => exact absurd (Option.some.inj own).symm other
  | service =>
    simp only [memberValues]
    split
    · have described (p : String) (given : p ≠ "") (rest : List String) :
          (Service.describe (p :: rest)).value ≠ "" := Service.describe_ne_empty given
      simp [within, described]
    split
    · simp [objectMember_ne_empty]
    · simp [Field.orUndefined_ne_empty]
  | port family => simpa [memberValues, within] using (isGiven_portCondition family _).valueOr literal
  | protocol =>
    have undefined : Field.undefined ≠ "" := by decide
    simpa [memberValues, within] using (isGiven_protocol _).valueOr undefined
  | icmpType => simpa [memberValues] using (isGiven_icmpType .v4 _).valueOr literal
  | other => cases own

/-- Where a member of a group may come from: a line with its value, a reference to its alias, or a group that
is referred to. -/
inductive Supplies (ms : List MemberLine) : String → String → Prop where
  | value {symbol value : String} {values : List String} (line : ⟨symbol, .values values⟩ ∈ ms)
      (among : value ∈ values) : Supplies ms symbol value
  | literal {symbol ref : String} (line : ⟨symbol, .reference ref⟩ ∈ ms) : Supplies ms symbol ref
  | group {symbol ref value : String} (line : ⟨symbol, .reference ref⟩ ∈ ms) (supplies : Supplies ms ref value) :
      Supplies ms symbol value

theorem Supplies.mono (more : ms ⊆ all) (supplies : Supplies ms symbol value) : Supplies all symbol value := by
  induction supplies with
  | value line among => exact .value (more line) among
  | literal line => exact .literal (more line)
  | group line _ ih => exact .group (more line) ih

/-- What the last line adds is supplied, if the members of the groups before it are. -/
theorem supplies_added (stored : ∀ symbol members, (tableOf ms).get? symbol = some members →
      ∀ value ∈ members, Supplies ms symbol value) :
    ∀ value ∈ m.added (tableOf ms), Supplies (ms ++ [m]) m.symbol value := by
  intro value among
  have last : m ∈ ms ++ [m] := by simp
  obtain ⟨own, values | ref⟩ := m
  · exact .value last among
  · simp only [MemberLine.added] at among ⊢
    cases had : (tableOf ms).get? ref with
    | some members =>
      rw [had, Option.getD_some] at among
      exact .group last ((stored ref members had value among).mono (by simp))
    | none =>
      -- A group that opens with itself adds nothing, and nothing has to be supplied.
      rw [had, Option.getD_none] at among
      split at among
      · cases among
      · obtain rfl := List.mem_singleton.mp among
        exact .literal last

/-- Every member that is stored is supplied by the lines. -/
theorem supplies_of_stored (found : (tableOf ms).get? symbol = some members) :
    ∀ value ∈ members, Supplies ms symbol value := by
  induction ms using List.reverseRecOn generalizing symbol members with
  | nil => simp [tableOf, Table.get?] at found
  | append_singleton ms m ih =>
    intro value among
    rw [tableOf_concat, MemberLine.get?_addTo] at found
    by_cases mine : symbol = m.symbol
    · subst mine
      rw [if_pos rfl, Option.some.injEq] at found
      rw [← found] at among
      rcases List.mem_append.mp among with old | new
      · cases had : (tableOf ms).get? m.symbol with
        | none => simp [had] at old
        | some earlier =>
          rw [had, Option.getD_some] at old
          exact (ih had value old).mono (by simp)
      · exact supplies_added (fun symbol members had => ih had) value new
    · rw [if_neg mine] at found
      exact (ih found value among).mono (by simp)

theorem values_stored (line : ⟨symbol, .values values⟩ ∈ ms) :
    ∃ members, (tableOf ms).get? symbol = some members ∧ values ⊆ members := by
  induction ms using List.reverseRecOn with
  | nil => cases line
  | append_singleton ms last ih =>
    rw [tableOf_concat, MemberLine.get?_addTo]
    rcases List.mem_append.mp line with earlier | here
    · obtain ⟨members, had, kept⟩ := ih earlier
      by_cases mine : symbol = last.symbol
      · exact ⟨_, if_pos mine, by simpa [had] using List.subset_append_of_subset_left _ kept⟩
      · exact ⟨members, by rw [if_neg mine, had], kept⟩
    · obtain rfl := List.mem_singleton.mp here
      exact ⟨_, if_pos rfl, by simp [MemberLine.added]⟩

theorem memberLine_given (line : m ∈ memberLines kind lines) :
    (∀ ref, m.member = .reference ref → ref ≠ "") ∧
      (kind ≠ .network → ∀ values, m.member = .values values → ∀ value ∈ values, value ≠ "") := by
  obtain ⟨e, _, read⟩ := List.mem_filterMap.mp line
  obtain ⟨_, tokens, sort, _, _, own, _, said⟩ := memberLine?_eq_some.mp read
  rcases said with ⟨_, given⟩ | ⟨_, given⟩ <;> rw [given]
  · refine ⟨by simp, ?_⟩
    rintro other _ ⟨⟩
    exact memberValues_given own other tokens
  · refine ⟨?_, by simp⟩
    rintro _ ⟨⟩
    exact Field.orUndefined_ne_empty _

theorem members_given (other : kind ≠ .network)
    (found : ((symbols lines).groups kind).get? symbol = some members) : ∀ value ∈ members, value ≠ "" := by
  rw [groups_symbols] at found
  intro value among
  have supplies := supplies_of_stored found value among
  clear found among
  induction supplies with
  | value line among => exact (memberLine_given line).2 other _ rfl _ among
  | literal line => exact (memberLine_given line).1 _ rfl
  | group _ _ ih => exact ih

end Config
end AccessList
