import AccessList.Proofs.Config.Tables

/-! Groups told from their member lines. The lines of one kind of groups make its table, one after the other:
each adds values of its own, or what another group has so far. -/
namespace AccessList.Config

open Clause

/-- What a line adds to its group: values, or the members of another group. -/
inductive Member where
  | values (values : List String)
  | reference (symbol : String)
  deriving DecidableEq, Repr

/-- A member line, with the alias of the group that it stands in. -/
structure MemberLine where
  symbol : String
  member : Member
  deriving DecidableEq, Repr

variable {kind : GroupKind} {symbol : String} {s s' : Symbols} {t : Table (List String)} {e : SectionLine}
  {m : MemberLine} {lines : List String}

/-- The member lines of groups of a kind. Their values hang on the names and the objects, not on groups. -/
def memberLine? (s : Symbols) (kind : GroupKind) : SectionLine → Option MemberLine
  | .body h tokens =>
    match groupSort? h with
    | none => none
    | some sort =>
      if sort.kind? ≠ some kind then none
      else if token tokens = memberKeyword kind then
        some ⟨h.symbol, .values (memberValues s sort tokens).value⟩
      else if token tokens = "group-object" then
        some ⟨h.symbol, .reference (Field.orUndefined (token (tokens.drop 1)))⟩
      else none
  | _ => none

namespace MemberLine

def addTo (t : Table (List String)) (m : MemberLine) : Table (List String) :=
  match m.member with
  | .values values => append t m.symbol values
  | .reference ref => appendGroup t m.symbol ref

/-- The members that a line adds to its group, given the groups so far. A group without members that refers
to itself is there already when it looks itself up, and adds nothing. -/
def added (t : Table (List String)) (m : MemberLine) : List String :=
  match m.member with
  | .values values => values
  | .reference ref => (t.get? ref).getD (if ref = m.symbol then [] else [ref])

theorem get?_addTo (t : Table (List String)) (m : MemberLine) (symbol : String) :
    (m.addTo t).get? symbol =
      if symbol = m.symbol then some ((t.get? symbol).getD [] ++ m.added t) else t.get? symbol := by
  obtain ⟨own, values | ref⟩ := m
  · simp only [addTo, added, get?_append]
    split
    · next same => rw [same]
    · rfl
  · simp only [addTo, added, appendGroup, get?_append]
    grind

end MemberLine

def tableOf (ms : List MemberLine) : Table (List String) := ms.foldl (fun t m => m.addTo t) {}

theorem tableOf_concat (ms : List MemberLine) (m : MemberLine) :
    tableOf (ms ++ [m]) = m.addTo (tableOf ms) := by
  simp [tableOf]

theorem memberKeyword_apart (kind : GroupKind) :
    "description" ≠ memberKeyword kind ∧ "group-object" ≠ memberKeyword kind := by
  cases kind <;> decide

/-- A section line extends one group of each kind that it is a member line of, and no other. -/
theorem groups_groupLine (s : Symbols) (kind : GroupKind) (e : SectionLine) :
    (groupLine s e).value.groups kind =
      ((memberLine? s kind e).map fun m => m.addTo (s.groups kind)).getD (s.groups kind) := by
  cases e with
  | unnamed line => rfl
  | header h =>
    simp only [groupLine]
    split <;> rfl
  | body h tokens =>
    simp only [groupLine, memberLine?]
    by_cases description : token tokens = "description"
    · simp only [description, if_true, (memberKeyword_apart kind).1, if_false, Noted.value_pure]
      cases groupSort? h <;> simp
    rw [if_neg description]
    cases groupSort? h with
    | none => rfl
    | some sort =>
      cases own : sort.kind? with
      | none => simp [own]
      | some kind' =>
        have noValues := (memberKeyword_apart kind').2
        by_cases same : kind' = kind
        · subst same
          by_cases keyword : token tokens = memberKeyword kind'
          · simp [own, keyword, Symbols.groups_withGroups, MemberLine.addTo]
          · by_cases reference : token tokens = "group-object"
            · simp [own, reference, noValues, Symbols.groups_withGroups, MemberLine.addTo]
            · simp [own, keyword, reference]
        · have other : kind ≠ kind' := Ne.symm same
          by_cases keyword : token tokens = memberKeyword kind'
          · simp [own, same, keyword, Symbols.groups_withGroups, other]
          · by_cases reference : token tokens = "group-object"
            · simp [own, same, reference, noValues, Symbols.groups_withGroups, other]
            · simp [own, same, keyword, reference]

theorem object?_congr (network : s'.networkObjects = s.networkObjects)
    (service : s'.serviceObjects = s.serviceObjects) (kind : GroupKind) :
    s'.object? kind = s.object? kind := by
  funext ref
  cases kind <;> simp [Symbols.object?, Symbols.objects?, network, service]

theorem memberValues_congr {sort : GroupSort} {line : List String} (names : s'.names = s.names)
    (objects : ∀ kind, sort.kind? = some kind → token (line.drop 1) = "object" →
      objectMember s' kind (line.drop 1) = objectMember s kind (line.drop 1)) :
    memberValues s' sort line = memberValues s sort line := by
  cases sort with
  | network =>
    simp only [memberValues, names]
    split
    · next object => rw [objects .network rfl object]
    · rfl
  | service =>
    simp only [memberValues]
    split
    · rfl
    split
    · next object => rw [objects .service rfl object]
    · rfl
  | port | protocol | icmpType | other => rfl

theorem memberLine?_congr (names : s'.names = s.names) (objects : s'.object? kind = s.object? kind)
    (e : SectionLine) : memberLine? s' kind e = memberLine? s kind e := by
  cases e with
  | unnamed | header => rfl
  | body h tokens =>
    simp only [memberLine?]
    split
    · rfl
    next sort _ =>
    split
    · rfl
    next own =>
    have values : memberValues s' sort tokens = memberValues s sort tokens := by
      refine memberValues_congr names fun kind' own' _ => ?_
      obtain rfl : kind = kind' := Option.some.inj ((not_not.mp own).symm.trans own')
      simp only [objectMember, objects]
    rw [values]

theorem groups_foldl (events : List SectionLine) (s : Symbols) (kind : GroupKind) :
    (events.foldl (fun s e => (groupLine s e).value) s).groups kind =
      (events.filterMap (memberLine? s kind)).foldl (fun t m => m.addTo t) (s.groups kind) := by
  induction events generalizing s with
  | nil => rfl
  | cons e events ih =>
    obtain ⟨names, networkObjects, serviceObjects⟩ := groupLine_keeps s e
    have objects := object?_congr networkObjects serviceObjects
    have same : memberLine? (groupLine s e).value kind = memberLine? s kind :=
      funext fun e => memberLine?_congr names (objects kind) e
    rw [List.foldl_cons, ih, same, groups_groupLine]
    cases member : memberLine? s kind e <;> simp [member]

def memberLines (kind : GroupKind) (lines : List String) : List MemberLine :=
  (sections "object-group" lines).filterMap (memberLine? (symbols lines) kind)

/-- A table of groups is what its member lines make. -/
theorem groups_symbols (kind : GroupKind) (lines : List String) :
    (symbols lines).groups kind = tableOf (memberLines kind lines) := by
  let objectsRead := (sections "object" lines).foldl (fun s e => (objectLine s e).value) { names := names lines }
  have whole : symbols lines =
      (sections "object-group" lines).foldl (fun s e => (groupLine s e).value) objectsRead := symbols_eq lines
  have empty : objectsRead.groups kind = {} := by
    rw [view_foldl_of_keeps (Symbols.groups · kind) fun s e => (objectLine_keeps s e).2 kind]
    cases kind <;> rfl
  have kept : (symbols lines).names = objectsRead.names ∧
      (symbols lines).networkObjects = objectsRead.networkObjects ∧
      (symbols lines).serviceObjects = objectsRead.serviceObjects := by
    rw [whole]
    refine ⟨?_, ?_, ?_⟩
    · exact view_foldl_of_keeps Symbols.names (fun s e => (groupLine_keeps s e).1) _ _
    · exact view_foldl_of_keeps Symbols.networkObjects (fun s e => (groupLine_keeps s e).2.1) _ _
    · exact view_foldl_of_keeps Symbols.serviceObjects (fun s e => (groupLine_keeps s e).2.2) _ _
  have objects := object?_congr kept.2.1 kept.2.2
  have same : memberLine? (symbols lines) kind = memberLine? objectsRead kind :=
    funext fun e => memberLine?_congr kept.1 (objects kind) e
  rw [memberLines, same, whole, groups_foldl, empty]
  rfl

theorem memberValues_ne_nil {sort : GroupSort} (own : sort.kind? = some kind) (line : List String) :
    (memberValues s sort line).value ≠ [] := by
  cases sort with
  | network =>
    simp only [memberValues]
    split <;> simp
  | service =>
    simp only [memberValues]
    split
    · simp
    split <;> simp
  | port | protocol | icmpType => simp [memberValues]
  | other => cases own

theorem memberLine?_eq_some : memberLine? s kind e = some m ↔
    ∃ h tokens sort, e = .body h tokens ∧ groupSort? h = some sort ∧ sort.kind? = some kind ∧
      h.symbol = m.symbol ∧
        (token tokens = memberKeyword kind ∧ m.member = .values (memberValues s sort tokens).value ∨
          token tokens = "group-object" ∧
            m.member = .reference (Field.orUndefined (token (tokens.drop 1)))) := by
  obtain ⟨symbol, member⟩ := m
  have noValues := (memberKeyword_apart kind).2
  constructor
  · intro found
    cases e with
    | unnamed | header => cases found
    | body h tokens =>
      simp only [memberLine?] at found
      split at found
      · cases found
      next sort declared =>
      split at found
      · cases found
      next own =>
      split at found
      · next keyword =>
        cases found
        exact ⟨h, tokens, sort, rfl, declared, not_not.mp own, rfl, .inl ⟨keyword, rfl⟩⟩
      split at found
      · next keyword =>
        cases found
        exact ⟨h, tokens, sort, rfl, declared, not_not.mp own, rfl, .inr ⟨keyword, rfl⟩⟩
      · cases found
  · rintro ⟨h, tokens, sort, rfl, declared, own, rfl, ⟨keyword, rfl⟩ | ⟨keyword, rfl⟩⟩
    · simp [memberLine?, declared, own, keyword]
    · simp [memberLine?, declared, own, keyword, noValues]

theorem memberLines_ne_nil (member : m ∈ memberLines kind lines) : m.member ≠ .values [] := by
  obtain ⟨e, _, found⟩ := List.mem_filterMap.mp member
  obtain ⟨_, tokens, sort, _, _, own, _, ⟨_, values⟩ | ⟨_, reference⟩⟩ := memberLine?_eq_some.mp found
  · simp [values, memberValues_ne_nil own]
  · simp [reference]

def linesOf (ms : List MemberLine) (symbol : String) : List Member :=
  (ms.filter (·.symbol = symbol)).map (·.member)

theorem linesOf_append (before after : List MemberLine) (symbol : String) :
    linesOf (before ++ after) symbol = linesOf before symbol ++ linesOf after symbol := by
  simp [linesOf]

theorem linesOf_concat (ms : List MemberLine) (m : MemberLine) (symbol : String) :
    linesOf (ms ++ [m]) symbol = linesOf ms symbol ++ if m.symbol = symbol then [m.member] else [] := by
  rw [linesOf_append]
  by_cases mine : m.symbol = symbol <;> simp [linesOf, mine]

theorem get?_tableOf_eq_none (ms : List MemberLine) (symbol : String) :
    (tableOf ms).get? symbol = none ↔ linesOf ms symbol = [] := by
  induction ms using List.reverseRecOn with
  | nil => simp [tableOf, linesOf, Table.get?]
  | append_singleton ms m ih =>
    rw [tableOf_concat, linesOf_concat, MemberLine.get?_addTo]
    by_cases mine : symbol = m.symbol
    · simp [mine]
    · simp [mine, Ne.symm mine, ih]

theorem contains_tableOf (ms : List MemberLine) (symbol : String) :
    (tableOf ms).contains symbol = true ↔ symbol ∈ ms.map (·.symbol) := by
  have lines : linesOf ms symbol = [] ↔ symbol ∉ ms.map (·.symbol) := by
    simp only [linesOf, List.map_eq_nil_iff, List.filter_eq_nil_iff, List.mem_map]
    grind
  rw [Table.contains, Option.isSome_iff_ne_none, ne_eq, get?_tableOf_eq_none, lines, not_not]

end AccessList.Config
