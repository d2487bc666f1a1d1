import AccessList.Proofs.Config.Blocks
import AccessList.Proofs.Config.Members

/-! Configurations with one more definition at their end. The definition of an object or a group adds its alias
to one table. The other aliases keep what they stand for, as long as no group of the configuration refers to an
object of that alias. -/
namespace AccessList

open Text

variable {s s' : Symbols} {kind : GroupKind} {key keyword line : String}

/-- Symbols in which a text is looked up alike among the objects and the groups of a kind. -/
structure Symbols.SameAt (s s' : Symbols) (kind : GroupKind) (key : String) : Prop where
  objects : (s'.objects? kind).map (·.get? key) = (s.objects? kind).map (·.get? key)
  group : (s'.groups kind).get? key = (s.groups kind).get? key

theorem Symbols.object?_of_get? (same : (s'.objects? kind).map (·.get? key) = (s.objects? kind).map (·.get? key)) :
    s'.object? kind key = s.object? kind key := by
  have filtered (s : Symbols) : s.object? kind key =
      ((s.objects? kind).map (·.get? key)).bind fun found => found.filter (!·.isEmpty) := by
    simp only [object?, Option.bind_map, Function.comp_def]
  rw [filtered, filtered, same]

namespace Symbols.SameAt

theorem object? (same : s.SameAt s' kind key) : s'.object? kind key = s.object? kind key :=
  object?_of_get? same.objects

theorem hasGroup (same : s.SameAt s' kind key) : s'.hasGroup kind key = s.hasGroup kind key := by
  simp only [Symbols.hasGroup, Table.contains, same.group]

theorem members (same : s.SameAt s' kind key) : s'.members kind key = s.members kind key := by
  simp only [Symbols.members, same.object?, same.group]

end Symbols.SameAt

namespace Config

open Clause

theorem words_of_toList {c : Char} {cs : List Char} (chars : line.toList = c :: cs) (plain : isBlank c = false) :
    ∃ more rest, words line = String.ofList (c :: more) :: rest := by
  have parts : line.toList.splitOnP isBlank = (cs.splitOnP isBlank).modifyHead (List.cons c) := by
    rw [chars, List.splitOnP_cons_eq_if_modifyHead, plain]
    rfl
  cases later : cs.splitOnP isBlank with
  | nil => exact absurd later (List.splitOnP_ne_nil isBlank cs)
  | cons part others =>
    refine ⟨part, (others.filter (!·.isEmpty)).map String.ofList, ?_⟩
    simp [words, parts, later]

/-- An object or a group, from its header to the last of its lines. -/
structure Definition where
  header : Header
  head : String
  body : List String
  tokens : words head = header.tokens
  keyword : header.keyword ∈ ["object", "object-group"]
  flush : startsWith " " head = false
  indented : ∀ line ∈ body, startsWith " " line = true

namespace Definition

variable {d : Definition}

def symbol (d : Definition) : String := d.header.symbol

/-- The kind of aliases that the definition adds to, if there is such a kind. -/
def kind? (d : Definition) : Option GroupKind :=
  if d.header.keyword = "object" then
    if isNetworkObject d.header then some .network else if isServiceObject d.header then some .service else none
  else (groupSort? d.header).bind GroupSort.kind?

/-- No line of the body opens a family other than that of the definition. -/
def IsClosed (d : Definition) : Prop :=
  ∀ line ∈ d.body, ∀ keyword ∈ families, keyword ≠ d.header.keyword → (words line).head? ≠ some keyword

instance (d : Definition) : Decidable d.IsClosed :=
  inferInstanceAs (Decidable (∀ line ∈ d.body, ∀ keyword ∈ families, keyword ≠ d.header.keyword →
    (words line).head? ≠ some keyword))

def lines (d : Definition) : List String := d.head :: d.body

/-- A configuration with the definition at its end, after a comment that closes what is open. -/
def addTo (d : Definition) (lines : List String) : List String := lines ++ "!" :: d.lines

theorem symbol_mem (d : Definition) : d.symbol ∈ words d.head := by
  rw [d.tokens]
  simp [symbol, Header.tokens]

theorem symbol_ne_empty (d : Definition) : d.symbol ≠ "" := ne_empty_of_mem_words d.symbol_mem

theorem head?_words (d : Definition) : (words d.head).head? = some d.header.keyword := by
  rw [d.tokens]
  rfl

theorem startsWith_head {first : Char} {rest : List Char} {start : String} (begins : start.toList = first :: rest)
    (plain : isBlank first = false) (other : first ≠ 'o') (d : Definition) : startsWith start d.head = false := by
  by_contra whole
  rw [Bool.not_eq_false, startsWith, begins, List.isPrefixOf_iff_prefix] at whole
  obtain ⟨more, chars⟩ := whole
  obtain ⟨word, others, split⟩ := words_of_toList chars.symm plain
  have named := d.head?_words
  rw [split, List.head?_cons, Option.some.injEq] at named
  have letter : (String.ofList (first :: word)).toList.head? = some 'o' := by
    rw [named]
    have keywords : ∀ keyword ∈ ["object", "object-group"], keyword.toList.head? = some 'o' := by decide
    exact keywords _ d.keyword
  simp at letter
  exact other letter

theorem startsWith_indented {first : Char} {rest : List Char} {start : String} (begins : start.toList = first :: rest)
    (other : first ≠ ' ') (blank : startsWith " " line = true) : startsWith start line = false := by
  obtain ⟨more, chars⟩ := List.isPrefixOf_iff_prefix.mp blank
  rw [startsWith, begins, ← chars]
  simp [List.isPrefixOf, other]

theorem unlisted (d : Definition) : ∀ line ∈ "!" :: d.lines, startsWith "access-list" line = false := by
  have begins : "access-list".toList = 'a' :: "ccess-list".toList := by decide
  intro line member
  rcases List.mem_cons.mp member with rfl | within
  · decide
  rcases List.mem_cons.mp within with rfl | inside
  · exact startsWith_head begins (by decide) (by decide) d
  · exact startsWith_indented begins (by decide) (d.indented line inside)

theorem isSeparator_head (d : Definition) : isSeparator d.head = false := by
  have given : d.head ≠ "" := by
    intro empty
    have member := d.symbol_mem
    rw [empty] at member
    revert member
    simp [words]
  have bang : "!".toList = ['!'] := rfl
  have comment : startsWith "!" d.head = false := startsWith_head bang (by decide) (by decide) d
  simp [isSeparator, given, comment]

theorem sectionsFrom_body {h : Header} {body : List String} (indented : ∀ line ∈ body, startsWith " " line = true)
    {e : SectionLine} (found : e ∈ sectionsFrom keyword (some h) body) : ∃ tokens, e = .body h tokens := by
  induction body with
  | nil => cases found
  | cons line body ih =>
    obtain ⟨blank, others⟩ := List.forall_mem_cons.mp indented
    have plain : isSeparator line = false := by
      have given : line ≠ "" := by
        rintro rfl
        cases blank
      have bang : "!".toList = ['!'] := rfl
      have comment : startsWith "!" line = false := startsWith_indented bang (by decide) blank
      simp [isSeparator, given, comment]
    rw [sectionsFrom, scanLine, plain, blank] at found
    cases tokens : words line with
    | nil =>
      rw [tokens] at found
      exact ih others (by simpa using found)
    | cons first more =>
      rw [tokens] at found
      rcases List.mem_append.mp found with here | later
      · exact ⟨first :: more, by simpa using here⟩
      · exact ih others later

theorem section_own {e : SectionLine} (found : e ∈ sections d.header.keyword d.lines) :
    e = .header d.header ∨ ∃ tokens, e = .body d.header tokens := by
  have opening : scanLine d.header.keyword {} d.head = ⟨some d.header, #[.header d.header]⟩ := by
    simp [scanLine, d.isSeparator_head, d.flush, d.tokens, Header.tokens]
  rw [sections_eq, lines, sectionsFrom, opening] at found
  rcases List.mem_cons.mp found with here | later
  · exact .inl here
  · exact .inr (sectionsFrom_body d.indented later)

theorem section_other (closed : d.IsClosed) (family : keyword ∈ families) (other : keyword ≠ d.header.keyword) :
    sections keyword d.lines = [] := by
  rw [sections_eq]
  refine sectionsFrom_quiet fun line member => ?_
  rcases List.mem_cons.mp member with rfl | inside
  · rw [d.head?_words, ne_eq, Option.some.injEq]
    exact Ne.symm other
  · exact closed line inside keyword family other

theorem sections_addTo (keyword : String) (lines : List String) (d : Definition) :
    sections keyword (d.addTo lines) = sections keyword lines ++ sections keyword d.lines := by
  have comment : isSeparator "!" = true := by decide
  rw [sections_eq, addTo, sectionsFrom_append fun line first => ?_, sections_eq, sections_eq]
  · simp [sectionsFrom, scanLine, comment]
  · obtain rfl : "!" = line := by simpa using first
    decide

theorem names_addTo (closed : d.IsClosed) (lines : List String) : names (d.addTo lines) = names lines := by
  have own : "name" ≠ d.header.keyword := by
    intro same
    have member := d.keyword
    rw [← same] at member
    exact absurd member (by decide)
  have none : (d.lines).filterMap nameLine? = [] := by
    refine List.filterMap_eq_nil_iff.mpr fun line member => nameLine?_quiet ?_
    rcases List.mem_cons.mp member with rfl | inside
    · rw [d.head?_words, ne_eq, Option.some.injEq]
      exact Ne.symm own
    · exact closed line inside "name" (by decide) own
  have comment : nameLine? "!" = Option.none := by decide
  rw [names, names, addTo, List.filterMap_append, List.filterMap_cons, comment, none, List.append_nil]

end Definition

/-- The object that a line of a group refers to. Where its alias is missing, `undefined` is looked up. -/
def reference? : SectionLine → Option (GroupKind × String)
  | .body h tokens =>
    ((groupSort? h).bind GroupSort.kind?).bind fun kind =>
      if token tokens = memberKeyword kind && token (tokens.drop 1) = "object" then
        some (kind, Field.orUndefined (token (tokens.drop 2)))
      else none
  | _ => none

def references (lines : List String) : List (GroupKind × String) :=
  (sections "object-group" lines).filterMap reference?

/-- A line is read alike where the object that it may refer to is. -/
theorem memberLine?_unread {e : SectionLine} {lines : List String} (names : s'.names = s.names)
    (line : e ∈ sections "object-group" lines)
    (objects : ∀ ref, (kind, ref) ∈ references lines → s'.object? kind ref = s.object? kind ref) :
    memberLine? s' kind e = memberLine? s kind e := by
  cases e with
  | unnamed | header => rfl
  | body h tokens =>
    simp only [memberLine?]
    split
    · rfl
    next sort declared =>
    split
    · rfl
    next own =>
    split
    · next keyword =>
      have values : memberValues s' sort tokens = memberValues s sort tokens := by
        refine memberValues_congr names fun kind' own' refers => ?_
        obtain rfl : kind = kind' := Option.some.inj ((not_not.mp own).symm.trans own')
        have refer : reference? (.body h tokens) = some (kind, Field.orUndefined (token (tokens.drop 2))) := by
          simp only [reference?, declared, Option.bind_some, own', keyword, refers, decide_true, Bool.and_self, if_true]
        have same := objects _ (List.mem_filterMap.mpr ⟨_, line, refer⟩)
        simp only [objectMember, List.drop_drop, same]
      rw [values]
    · rfl

theorem tableOf_append_other {ms others : List MemberLine} (apart : ∀ m ∈ others, m.symbol ≠ key) :
    (tableOf (ms ++ others)).get? key = (tableOf ms).get? key := by
  induction others using List.reverseRecOn with
  | nil => rw [List.append_nil]
  | append_singleton others m ih =>
    have last : m.symbol ≠ key := apart m (by simp)
    rw [← List.append_assoc, tableOf_concat, MemberLine.get?_addTo, if_neg (Ne.symm last)]
    exact ih fun m member => apart m (List.mem_append_left _ member)

namespace Definition

variable {d : Definition}

theorem body_other {declares : Header → Bool} (closed : d.IsClosed)
    (other : d.header.keyword = "object" → declares d.header = true → key ≠ d.symbol) :
    (sections "object" d.lines).filterMap (body? declares key) = [] := by
  refine List.filterMap_eq_nil_iff.mpr fun e line => ?_
  by_cases own : d.header.keyword = "object"
  · rw [← own] at line
    rcases section_own line with rfl | ⟨tokens, rfl⟩
    · rfl
    · by_contra given
      obtain ⟨tokens', body⟩ := Option.ne_none_iff_exists'.mp given
      obtain ⟨h, same, declared, named, _⟩ := body?_eq_some.mp body
      obtain ⟨rfl, _⟩ := SectionLine.body.inj same
      exact other own declared named.symm
  · rw [section_other closed (by decide) (Ne.symm own)] at line
    cases line

theorem networkObjects_addTo (closed : d.IsClosed)
    (other : d.header.keyword = "object" → d.kind? = some .network → key ≠ d.symbol) (lines : List String) :
    (symbols (d.addTo lines)).networkObjects.get? key = (symbols lines).networkObjects.get? key := by
  have none : (sections "object" d.lines).filterMap (body? isNetworkObject key) = [] :=
    body_other closed fun object network => other object (by simp [kind?, object, network])
  rw [networkObjects_symbols, networkObjects_symbols, networkObjectBody, networkObjectBody, sections_addTo,
    List.filterMap_append, none, List.append_nil]

theorem serviceObjects_addTo (closed : d.IsClosed)
    (other : d.header.keyword = "object" → d.kind? = some .service → key ≠ d.symbol) (lines : List String) :
    (symbols (d.addTo lines)).serviceObjects.get? key = (symbols lines).serviceObjects.get? key := by
  have bodies : (sections "object" d.lines).filterMap (body? isServiceObject key) = [] := by
    refine body_other closed fun object service => other object ?_
    have apart : isNetworkObject d.header = false := by simp_all [isNetworkObject, isServiceObject]
    simp [kind?, object, service, apart]
  have none : (sections "object" d.lines).filterMap (fun e =>
      (body? isServiceObject key e).filter (token · = "service")) = [] := by
    refine List.filterMap_eq_nil_iff.mpr fun e line => ?_
    rw [List.filterMap_eq_nil_iff.mp bodies e line]
    rfl
  rw [serviceObjects_symbols, serviceObjects_symbols, serviceObjectBody, serviceObjectBody, sections_addTo,
    List.filterMap_append, none, List.append_nil]

theorem objects_addTo (closed : d.IsClosed)
    (other : d.header.keyword = "object" → d.kind? = some kind → key ≠ d.symbol) (lines : List String) :
    ((symbols (d.addTo lines)).objects? kind).map (·.get? key) =
      ((symbols lines).objects? kind).map (·.get? key) := by
  cases kind with
  | network => exact congrArg some (networkObjects_addTo closed other lines)
  | service => exact congrArg some (serviceObjects_addTo closed other lines)
  | port | protocol | icmpType => rfl

/-- The member lines of a definition are those of its own group. -/
theorem memberLine_own {m : MemberLine} (closed : d.IsClosed)
    (found : m ∈ (sections "object-group" d.lines).filterMap (memberLine? s kind)) :
    d.kind? = some kind ∧ m.symbol = d.symbol := by
  obtain ⟨e, line, read⟩ := List.mem_filterMap.mp found
  obtain ⟨h, tokens, sort, rfl, declared, own, named, _⟩ := memberLine?_eq_some.mp read
  by_cases group : d.header.keyword = "object-group"
  · rw [← group] at line
    rcases section_own line with same | ⟨_, same⟩
    · cases same
    · obtain ⟨rfl, _⟩ := SectionLine.body.inj same
      exact ⟨by simp [kind?, group, declared, own], named.symm⟩
  · rw [section_other closed (by decide) (Ne.symm group)] at line
    cases line

/-- Symbols with one more definition are looked up alike but for its alias, if no group refers to an object that
is defined only now. -/
theorem sameAt_addTo (closed : d.IsClosed) {lines : List String}
    (unreferred : ∀ kind, d.kind? = some kind → d.header.keyword = "object" → (kind, d.symbol) ∉ references lines)
    (other : d.kind? = some kind → key ≠ d.symbol) :
    (symbols lines).SameAt (symbols (d.addTo lines)) kind key := by
  refine ⟨objects_addTo closed (fun _ => other) lines, ?_⟩
  have names : (symbols (d.addTo lines)).names = (symbols lines).names := by
    rw [names_symbols, names_symbols, names_addTo closed]
  have refs (ref : String) (refers : (kind, ref) ∈ references lines) :
      (symbols (d.addTo lines)).object? kind ref = (symbols lines).object? kind ref := by
    refine Symbols.object?_of_get? (objects_addTo closed (fun object defined => ?_) lines)
    rintro rfl
    exact unreferred kind defined object refers
  have own : (sections "object-group" lines).filterMap (memberLine? (symbols (d.addTo lines)) kind) =
      memberLines kind lines :=
    List.filterMap_congr fun e line => memberLine?_unread names line refs
  -- The lines of the definition come last, and the groups before are read as they were.
  rw [groups_symbols, groups_symbols, memberLines, sections_addTo, List.filterMap_append, own]
  refine tableOf_append_other fun m member same => ?_
  obtain ⟨defined, named⟩ := memberLine_own closed member
  exact other defined (same.symm.trans named)

end Definition
end Config
end AccessList
