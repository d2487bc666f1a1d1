import AccessList.Proofs.Address.Spelling

/-! Pieces between colons. A way to write single groups is read back group by group, so that the groups of an
address may be joined by colons, all eight of them or with a gap between two sides. -/
namespace AccessList.Address.Hextets

open Text

variable {text : Nat → String} {gs ts : List Nat} {tail parts : List String} {g : Nat} {c : Char}

/-- A way to write a group, by hexadecimal digits only. -/
structure SpellsGroups (text : Nat → String) : Prop where
  reads : ∀ g < 0x10000, group? (text g) = some g
  digits : ∀ g, ∀ c ∈ (text g).toList, (hexValue? c).isSome = true

theorem SpellsGroups.not_mem (spells : SpellsGroups text) (other : hexValue? c = none) (g : Nat) :
    c ∉ (text g).toList := by
  intro member
  have digit := spells.digits g c member
  simp [other] at digit

theorem SpellsGroups.ne_empty (spells : SpellsGroups text) (small : g < 0x10000) : text g ≠ "" := by
  intro empty
  have read := spells.reads g small
  rw [empty] at read
  cases read

theorem SpellsGroups.readGroups (spells : SpellsGroups text) (small : ∀ g ∈ gs, g < 0x10000)
    (read : groupsOf? tail = some ts) : groupsOf? (gs.map text ++ tail) = some (gs ++ ts) := by
  induction gs with
  | nil => exact read
  | cons g rest ih =>
    obtain ⟨here, later⟩ := List.forall_mem_cons.mp small
    have readHere := spells.reads g here
    have readRest := ih later
    rw [List.map_cons, List.cons_append, List.cons_append]
    cases parts : rest.map text ++ tail with
    | nil =>
      have plain : has '.' (text g) = false := by
        simpa [has] using spells.not_mem (c := '.') (by decide) g
      have none : rest ++ ts = [] := by simpa [parts, groupsOf?] using readRest.symm
      simp [groupsOf?, plain, readHere, none]
    | cons next others =>
      rw [parts] at readRest
      simp [groupsOf?, readHere, readRest]

theorem SpellsGroups.readAll (spells : SpellsGroups text) (small : ∀ g ∈ gs, g < 0x10000) :
    groupsOf? (gs.map text) = some gs := by
  simpa using spells.readGroups small (show groupsOf? [] = some [] from rfl)

theorem SpellsGroups.mem_join (spells : SpellsGroups text) (digit : hexValue? c = none) (colon : c ≠ ':') :
    c ∈ (":".intercalate (gs.map text ++ tail)).toList ↔ ∃ part ∈ tail, c ∈ part.toList := by
  rw [mem_join_parts rfl colon]
  constructor
  · rintro ⟨part, among, inside⟩
    rcases List.mem_append.mp among with group | later
    · obtain ⟨g, _, rfl⟩ := List.mem_map.mp group
      exact absurd inside (spells.not_mem digit g)
    · exact ⟨part, later, inside⟩
  · rintro ⟨part, among, inside⟩
    exact ⟨part, List.mem_append_right _ among, inside⟩

theorem splitGap_append {g : List Char} (free : ':' ∉ g) (rest : List Char) :
    splitGap (g ++ rest) = (splitGap rest).map fun (a, b) => (g ++ a, b) := by
  induction g with
  | nil => simp
  | cons c g ih =>
    simp only [List.mem_cons, not_or] at free
    have other : ∀ s, c = ':' → g ++ rest = ':' :: s → False := fun s colon _ => free.1 colon.symm
    rw [List.cons_append, splitGap, ih free.2]
    · simp [Option.map_map, Function.comp_def]
    · exact other

theorem splitGap_join_append {parts : List (List Char)} (free : ∀ part ∈ parts, ':' ∉ part)
    (nonempty : ∀ part ∈ parts, part ≠ []) (rest : List Char) :
    splitGap ([':'].intercalate parts ++ rest) =
      (splitGap rest).map fun (a, b) => ([':'].intercalate parts ++ a, b) := by
  induction parts with
  | nil => simp
  | cons g later ih =>
    obtain ⟨freeHere, freeLater⟩ := List.forall_mem_cons.mp free
    obtain ⟨_, nonemptyLater⟩ := List.forall_mem_cons.mp nonempty
    cases later with
    | nil => simpa using splitGap_append freeHere rest
    | cons next others =>
      have single : ∀ s, [':'].intercalate (next :: others) ++ rest = ':' :: s → False := by
        intro s doubled
        obtain ⟨c, cs, rfl⟩ := List.exists_cons_of_ne_nil (nonemptyLater next List.mem_cons_self)
        have start : c = ':' := by cases others <;> simp_all
        exact freeLater (c :: cs) List.mem_cons_self (by simp [start])
      rw [List.intercalate_cons_cons, List.append_assoc, List.append_assoc, splitGap_append freeHere,
        List.singleton_append, splitGap, ih freeLater nonemptyLater, Option.map_map, Option.map_map]
      · simp [Function.comp_def]
      · exact fun s _ doubled => single s doubled

/-- Parts between colons: no colon in any of them, and none of them empty. -/
structure ArePieces (parts : List String) : Prop where
  free : ∀ part ∈ parts, ':' ∉ part.toList
  given : ∀ part ∈ parts, part ≠ ""

theorem ArePieces.append {more : List String} (pieces : ArePieces parts) (others : ArePieces more) :
    ArePieces (parts ++ more) :=
  ⟨List.forall_mem_append.mpr ⟨pieces.free, others.free⟩, List.forall_mem_append.mpr ⟨pieces.given, others.given⟩⟩

theorem SpellsGroups.pieces (spells : SpellsGroups text) (small : ∀ g ∈ gs, g < 0x10000) :
    ArePieces (gs.map text) where
  free := List.forall_mem_map.mpr fun g _ => spells.not_mem (by decide) g
  given := List.forall_mem_map.mpr fun g member => spells.ne_empty (small g member)

theorem ArePieces.splitGap_eq (pieces : ArePieces parts) (rest : List Char) :
    splitGap ((":".intercalate parts).toList ++ rest) =
      (splitGap rest).map fun (a, b) => ((":".intercalate parts).toList ++ a, b) := by
  rw [String.toList_intercalate]
  apply splitGap_join_append
  · exact List.forall_mem_map.mpr pieces.free
  · exact List.forall_mem_map.mpr fun part among => by simpa using pieces.given part among

theorem ArePieces.fields_eq (pieces : ArePieces parts) (given : parts ≠ []) :
    fields ':' (":".intercalate parts) = parts :=
  fields_join rfl pieces.free given

theorem ArePieces.side?_eq (pieces : ArePieces parts) : side? (":".intercalate parts) = groupsOf? parts := by
  unfold side?
  cases parts with
  | nil => rfl
  | cons part others =>
    have nonempty : ":".intercalate (part :: others) ≠ "" := by
      intro empty
      obtain ⟨given, _⟩ := List.forall_mem_cons.mp pieces.given
      cases others <;> simp_all
    rw [if_neg (by simpa using nonempty), pieces.fields_eq (List.cons_ne_nil part others)]

/-- A gap is read as the zero groups that are missing. -/
theorem spelled?_gap {high low : List String} {hs ls : List Nat} (pieces : ArePieces high)
    (noQuad : ∀ part ∈ high, '.' ∉ part.toList) (pieces' : ArePieces low) (read : groupsOf? high = some hs)
    (read' : groupsOf? low = some ls) (few : hs.length + ls.length < 8) :
    spelled? (":".intercalate high ++ "::" ++ ":".intercalate low) =
      some (ofGroups (hs ++ List.replicate (8 - (hs.length + ls.length)) 0 ++ ls)) := by
  have gap : splitGap (":".intercalate high ++ "::" ++ ":".intercalate low).toList =
      some ((":".intercalate high).toList, (":".intercalate low).toList) := by
    have double (rest : List Char) : splitGap (':' :: ':' :: rest) = some ([], rest) := by rw [splitGap]
    rw [String.toList_append, String.toList_append, List.append_assoc, pieces.splitGap_eq]
    simp [double]
  have plain : has '.' (":".intercalate high) = false := by
    rw [Bool.eq_false_iff, ne_eq, has_iff, mem_join_parts rfl (by decide)]
    rintro ⟨part, among, dot⟩
    exact noQuad part among dot
  simp only [spelled?, gap, String.ofList_toList, plain, pieces.side?_eq, pieces'.side?_eq, read, read']
  simp [few]

theorem spelled?_pieces (pieces : ArePieces parts) (read : groupsOf? parts = some gs) (eight : gs.length = 8) :
    spelled? (":".intercalate parts) = some (ofGroups gs) := by
  have noGap : splitGap (":".intercalate parts).toList = none := by
    simpa [splitGap] using pieces.splitGap_eq []
  have given : parts ≠ [] := by
    rintro rfl
    obtain rfl : [] = gs := by simpa [groupsOf?] using read
    cases eight
  rw [spelled?, noGap]
  simp [pieces.fields_eq given, read, eight]

end AccessList.Address.Hextets
