import AccessList.Proofs.Config.Members
import AccessList.Proofs.Config.Sections

/-! Lines of address translation in network objects, and the configuration without them. Such a line leaves
its object undefined until another line follows, so that only objects that end with one depend on it, and the
groups that take these. -/
namespace AccessList

open Text

namespace Config

open Clause

variable {opened group : Option Header} {line symbol : String} {lines : List String} {e : SectionLine}

def isTranslation : SectionLine → Bool
  | .body h tokens => isNetworkObject h && token tokens = "nat"
  | _ => false

def withoutTranslationsFrom (opened : Option Header) : List String → List String
  | [] => []
  | line :: rest =>
    let scan := scanLine "object" { opened } line
    if scan.found.toList.any isTranslation then withoutTranslationsFrom scan.opened rest
    else line :: withoutTranslationsFrom scan.opened rest

/-- A configuration without the lines of address translation in its network objects. -/
def withoutTranslations (lines : List String) : List String := withoutTranslationsFrom none lines

/-- A line of address translation is an indented line in the section that is open, and leaves it open. -/
theorem translation_line (translates : (scanLine "object" { opened } line).found.toList.any isTranslation = true) :
    ∃ h more, opened = some h ∧ isNetworkObject h = true ∧ isSeparator line = false ∧
      startsWith " " line = true ∧ words line = "nat" :: more := by
  obtain ⟨e, member, translation⟩ := List.any_eq_true.mp translates
  cases e with
  | unnamed | header => cases translation
  | body h tokens =>
    obtain ⟨rfl, plain, indented, rfl, given⟩ := body_of_scanLine member
    obtain ⟨network, keyword⟩ : isNetworkObject h = true ∧ token (words line) = "nat" := by
      simpa [isTranslation] using translation
    obtain ⟨first, more, tokens⟩ := List.exists_cons_of_ne_nil given
    obtain rfl : first = "nat" := by simpa [tokens] using keyword
    exact ⟨h, more, rfl, network, plain, indented, tokens⟩

theorem objectSections_withoutTranslations (lines : List String) :
    sections "object" (withoutTranslations lines) = (sections "object" lines).filter (!isTranslation ·) := by
  have go (opened : Option Header) : sectionsFrom "object" opened (withoutTranslationsFrom opened lines) =
      (sectionsFrom "object" opened lines).filter (!isTranslation ·) := by
    induction lines generalizing opened with
    | nil => rfl
    | cons line lines ih =>
      simp only [withoutTranslationsFrom, sectionsFrom, List.filter_append]
      split
      · next translates =>
        obtain ⟨h, more, rfl, network, plain, indented, tokens⟩ := translation_line translates
        rw [scanLine_indented plain indented tokens (by decide), ih]
        simp [isTranslation, network, tokens]
      · next other =>
        have none : (scanLine "object" { opened } line).found.toList.filter (!isTranslation ·) =
            (scanLine "object" { opened } line).found.toList := by
          refine List.filter_eq_self.mpr fun e member => ?_
          by_contra translates
          exact other (List.any_eq_true.mpr ⟨e, member, by simpa using translates⟩)
        rw [sectionsFrom, ih, none]
  rw [sections_eq, sections_eq]
  exact go none

theorem groupSections_withoutTranslations {α : Type} {read : SectionLine → Option α}
    (silent : ∀ h more, read (.body h ("nat" :: more)) = none) (lines : List String) :
    (sections "object-group" (withoutTranslations lines)).filterMap read =
      (sections "object-group" lines).filterMap read := by
  have go (opened group : Option Header) :
      (sectionsFrom "object-group" group (withoutTranslationsFrom opened lines)).filterMap read =
        (sectionsFrom "object-group" group lines).filterMap read := by
    induction lines generalizing opened group with
    | nil => rfl
    | cons line lines ih =>
      simp only [withoutTranslationsFrom]
      split
      · next translates =>
        -- An indented line that is lost here leaves the scan for groups as it is, in a group or outside.
        obtain ⟨h, more, rfl, _, plain, indented, tokens⟩ := translation_line translates
        have other : "nat" ≠ "object-group" := by decide
        rw [ih, sectionsFrom, scanLine_indented plain indented tokens other, tokens]
        cases group <;> simp [silent]
      · simp only [sectionsFrom, List.filterMap_append, ih]
  rw [sections_eq, sections_eq]
  exact go none none

theorem names_withoutTranslations (lines : List String) : names (withoutTranslations lines) = names lines := by
  have go (opened : Option Header) :
      (withoutTranslationsFrom opened lines).filterMap nameLine? = lines.filterMap nameLine? := by
    induction lines generalizing opened with
    | nil => rfl
    | cons line lines ih =>
      simp only [withoutTranslationsFrom]
      split
      · next translates =>
        obtain ⟨_, more, _, _, _, _, tokens⟩ := translation_line translates
        have unnamed : nameLine? line = none := by
          simp [nameLine?, tokens]
        rw [ih, List.filterMap_cons_none unnamed]
      · rw [List.filterMap_cons, List.filterMap_cons, ih]
  exact congrArg Table.ofList (go none)

theorem networkObjectBody_withoutTranslations (symbol : String) (lines : List String) :
    networkObjectBody symbol (withoutTranslations lines) =
      (networkObjectBody symbol lines).filter (token · ≠ "nat") := by
  rw [networkObjectBody, objectSections_withoutTranslations, networkObjectBody, List.filter_filterMap,
    List.filterMap_filter]
  congr 1
  funext e
  cases e with
  | unnamed | header => rfl
  | body h tokens =>
    cases network : isNetworkObject h with
    | false => simp [body?, network]
    | true =>
      by_cases keyword : token tokens = "nat"
      · by_cases mine : h.symbol = symbol <;>
          simp [isTranslation, body?, network, keyword, mine, Option.filter_some]
      · by_cases mine : h.symbol = symbol ∧ token tokens ≠ "description"
        · simp [isTranslation, body?, network, keyword, mine, Option.filter_some]
        · simp [isTranslation, body?, network, keyword, mine]

theorem serviceObjectBody_withoutTranslations (symbol : String) (lines : List String) :
    serviceObjectBody symbol (withoutTranslations lines) = serviceObjectBody symbol lines := by
  rw [serviceObjectBody, objectSections_withoutTranslations, serviceObjectBody, List.filterMap_filter]
  congr 1
  funext e
  cases e with
  | unnamed | header => rfl
  | body h tokens =>
    cases service : isServiceObject h with
    | false => simp [body?, service]
    | true =>
      simp [isTranslation, isNetworkObject_service service]

/-- Whether the last line that says what a network object is translates its address. -/
def endsInTranslation (lines : List String) (symbol : String) : Bool :=
  (networkObjectBody symbol lines).getLast?.any (token · = "nat")

/-- Once these lines are gone, every object has the value of its last other line. -/
theorem networkObjects_untranslated (lines : List String) (symbol : String) :
    (symbols (withoutTranslations lines)).networkObjects.get? symbol =
      ((networkObjectBody symbol lines).filter (token · ≠ "nat")).getLast?.map networkValue := by
  rw [networkObjects_symbols, networkObjectBody_withoutTranslations]

theorem networkObjects_withoutTranslations (other : endsInTranslation lines symbol = false) :
    (symbols (withoutTranslations lines)).networkObjects.get? symbol =
      (symbols lines).networkObjects.get? symbol := by
  rw [networkObjects_untranslated, networkObjects_symbols]
  cases last : (networkObjectBody symbol lines).getLast? with
  | none =>
    rw [List.getLast?_eq_none_iff.mp last]
    rfl
  | some tokens =>
    have keyword : token tokens ≠ "nat" := by simpa [endsInTranslation, last] using other
    obtain ⟨before, whole⟩ := List.getLast?_eq_some_iff.mp last
    rw [whole]
    simp [List.filter_append, keyword]

theorem networkObjects_translated (ends : endsInTranslation lines symbol = true) :
    (symbols lines).networkObjects.get? symbol = some Field.undefined := by
  rw [networkObjects_symbols]
  cases last : (networkObjectBody symbol lines).getLast? with
  | none => simp [endsInTranslation, last] at ends
  | some tokens =>
    have keyword : token tokens = "nat" := by simpa [endsInTranslation, last] using ends
    cases tokens with
    | nil => exact absurd keyword (by decide)
    | cons first more =>
      obtain rfl : first = "nat" := keyword
      rfl

theorem object?_withoutTranslations (other : endsInTranslation lines symbol = false) :
    (symbols (withoutTranslations lines)).object? .network symbol = (symbols lines).object? .network symbol := by
  simp only [Symbols.object?, Symbols.objects?, Option.bind_some, networkObjects_withoutTranslations other]

theorem serviceObjects_withoutTranslations (lines : List String) (symbol : String) :
    (symbols (withoutTranslations lines)).serviceObjects.get? symbol =
      (symbols lines).serviceObjects.get? symbol := by
  rw [serviceObjects_symbols, serviceObjects_symbols, serviceObjectBody_withoutTranslations]

theorem objects_withoutTranslations {kind : GroupKind} (other : kind ≠ .network) (lines : List String) :
    (symbols (withoutTranslations lines)).object? kind = (symbols lines).object? kind := by
  funext ref
  cases kind with
  | network => exact absurd rfl other
  | service =>
    simp only [Symbols.object?, Symbols.objects?, Option.bind_some, serviceObjects_withoutTranslations]
  | port | protocol | icmpType => rfl

/-- The groups of networks that have a member by way of an object that ends with such a line. -/
inductive TakesTranslated (lines : List String) : String → Prop where
  | object {h : Header} {tokens : List String} (line : .body h tokens ∈ sections "object-group" lines)
      (network : isNetworkGroup h = true) (keyword : token tokens = "network-object")
      (refers : token (tokens.drop 1) = "object")
      (ends : endsInTranslation lines (Field.orUndefined (token (tokens.drop 2))) = true) :
      TakesTranslated lines h.symbol
  | group {symbol ref : String} (line : ⟨symbol, .reference ref⟩ ∈ memberLines .network lines)
      (takes : TakesTranslated lines ref) : TakesTranslated lines symbol

theorem memberLine?_translation (s : Symbols) (kind : GroupKind) (h : Header) (more : List String) :
    memberLine? s kind (.body h ("nat" :: more)) = none := by
  have noMember : "nat" ≠ memberKeyword kind := by cases kind <;> decide
  simp only [memberLine?, token_cons, noMember, if_false]
  split
  · rfl
  · split <;> rfl

theorem memberLines_withoutTranslations (kind : GroupKind) (lines : List String) :
    memberLines kind (withoutTranslations lines) =
      (sections "object-group" lines).filterMap (memberLine? (symbols (withoutTranslations lines)) kind) :=
  groupSections_withoutTranslations (memberLine?_translation _ kind) lines

theorem names_symbols_withoutTranslations (lines : List String) :
    (symbols (withoutTranslations lines)).names = (symbols lines).names := by
  rw [names_symbols, names_symbols, names_withoutTranslations]

theorem groups_withoutTranslations {kind : GroupKind} (other : kind ≠ .network) (lines : List String) :
    (symbols (withoutTranslations lines)).groups kind = (symbols lines).groups kind := by
  have objects := objects_withoutTranslations other lines
  have read : memberLine? (symbols (withoutTranslations lines)) kind = memberLine? (symbols lines) kind :=
    funext fun e => memberLine?_congr (names_symbols_withoutTranslations lines) objects e
  rw [groups_symbols, groups_symbols, memberLines_withoutTranslations, read, memberLines]

theorem symbol_memberLine? (s s' : Symbols) (kind : GroupKind) (e : SectionLine) :
    (memberLine? s' kind e).map (·.symbol) = (memberLine? s kind e).map (·.symbol) := by
  cases e with
  | unnamed | header => rfl
  | body h tokens =>
    simp only [memberLine?]
    split
    · rfl
    · split_ifs <;> rfl

theorem hasGroup_withoutTranslations (lines : List String) (kind : GroupKind) :
    (symbols (withoutTranslations lines)).hasGroup kind = (symbols lines).hasGroup kind := by
  have same : (memberLines kind (withoutTranslations lines)).map (·.symbol) =
      (memberLines kind lines).map (·.symbol) := by
    rw [memberLines_withoutTranslations, memberLines, List.map_filterMap, List.map_filterMap]
    congr 1
    funext e
    exact symbol_memberLine? _ _ kind e
  funext symbol
  rw [Bool.eq_iff_iff, Symbols.hasGroup, Symbols.hasGroup, groups_symbols, groups_symbols, contains_tableOf,
    contains_tableOf, same]

/-- A line of a group that takes nothing translated adds what it added. -/
theorem memberLine?_untranslated {m : MemberLine} (line : e ∈ sections "object-group" lines)
    (read : memberLine? (symbols lines) .network e = some m) (plain : ¬ TakesTranslated lines m.symbol) :
    memberLine? (symbols (withoutTranslations lines)) .network e = some m := by
  obtain ⟨h, tokens, sort, rfl, declared, own, mine, said⟩ := memberLine?_eq_some.mp read
  refine memberLine?_eq_some.mpr ⟨h, tokens, sort, rfl, declared, own, mine, ?_⟩
  rcases said with ⟨keyword, values⟩ | reference
  · have same : memberValues (symbols (withoutTranslations lines)) sort tokens =
        memberValues (symbols lines) sort tokens := by
      refine memberValues_congr (names_symbols_withoutTranslations lines) fun kind own' refers => ?_
      obtain rfl : .network = kind := Option.some.inj (own.symm.trans own')
      obtain rfl : sort = .network := by cases sort <;> simp_all [GroupSort.kind?]
      have other : endsInTranslation lines (Field.orUndefined (token (tokens.drop 2))) = false := by
        by_contra ends
        rw [Bool.not_eq_false] at ends
        exact plain (mine ▸ .object line (by simp [isNetworkGroup, declared]) keyword refers ends)
      rw [objectMember, objectMember, List.drop_drop, object?_withoutTranslations other]
    exact .inl ⟨keyword, by rw [same, values]⟩
  · exact .inr reference

theorem added_withoutTranslations {m : MemberLine} {t t' : Table (List String)}
    (listed : m ∈ memberLines .network lines) (plain : ¬ TakesTranslated lines m.symbol)
    (alike : ∀ ref, ¬ TakesTranslated lines ref → t'.get? ref = t.get? ref) : m.added t' = m.added t := by
  obtain ⟨symbol, values | ref⟩ := m
  · rfl
  · have plainRef : ¬ TakesTranslated lines ref := fun takes => plain (.group listed takes)
    simp only [MemberLine.added, alike ref plainRef]

/-- So the tables of both configurations keep in step while the lines are read. -/
theorem tableOf_withoutTranslations {events : List SectionLine}
    (among : ∀ e ∈ events, e ∈ sections "object-group" lines) (plain : ¬ TakesTranslated lines symbol) :
    (tableOf (events.filterMap (memberLine? (symbols (withoutTranslations lines)) .network))).get? symbol =
      (tableOf (events.filterMap (memberLine? (symbols lines) .network))).get? symbol := by
  induction events using List.reverseRecOn generalizing symbol with
  | nil => rfl
  | append_singleton events e ih =>
    have before {ref : String} (plain : ¬ TakesTranslated lines ref) :=
      ih (fun e' member => among e' (List.mem_append_left _ member)) plain
    have owner := symbol_memberLine? (symbols lines) (symbols (withoutTranslations lines)) .network e
    rw [List.filterMap_append, List.filterMap_append]
    cases found : memberLine? (symbols lines) .network e with
    | none =>
      have found' : memberLine? (symbols (withoutTranslations lines)) .network e = none := by
        simpa [found] using owner
      simp [found, found', before plain]
    | some m =>
      obtain ⟨m', found', same⟩ : ∃ m',
          memberLine? (symbols (withoutTranslations lines)) .network e = some m' ∧ m'.symbol = m.symbol := by
        simpa [found, Option.map_eq_some_iff] using owner
      simp only [List.filterMap_cons, List.filterMap_nil, found, found', tableOf_concat,
        MemberLine.get?_addTo, same]
      split
      · next mine =>
        subst mine
        have line := among e (by simp)
        obtain rfl : m' = m := Option.some.inj (found'.symm.trans (memberLine?_untranslated line found plain))
        have listed : m' ∈ memberLines .network lines := List.mem_filterMap.mpr ⟨e, line, found⟩
        rw [before plain, added_withoutTranslations listed plain fun _ => before]
      · exact before plain

theorem networkGroups_withoutTranslations (plain : ¬ TakesTranslated lines symbol) :
    (symbols (withoutTranslations lines)).networkGroups.get? symbol =
      (symbols lines).networkGroups.get? symbol := by
  have whole (s : Symbols) : s.networkGroups = s.groups .network := rfl
  rw [whole, whole, groups_symbols, groups_symbols, memberLines_withoutTranslations, memberLines]
  exact tableOf_withoutTranslations (fun _ member => member) plain

end Config
end AccessList
