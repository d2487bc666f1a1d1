import AccessList.Config.Reader
import Mathlib.Data.List.Induction

/-! What the tables hold after a configuration is read, told from its section lines: an object has the
value of the last line that defines it, and a group of networks has the members of all its lines. -/
namespace AccessList

namespace Noted

theorem value_sweep {ν α β : Type} (f : β → α → Noted ν β) (init : β) (xs : List α) :
    (sweep f init xs).value = xs.foldl (fun s x => (f s x).value) init := by
  have carried (notes : Array ν) : (xs.foldl (fun (p : β × Array ν) x =>
      ((f p.1 x).value, p.2 ++ (f p.1 x).notes)) (init, notes)).1 =
      xs.foldl (fun s x => (f s x).value) init := by
    induction xs generalizing init notes with
    | nil => rfl
    | cons x xs ih => exact ih _ _
  exact carried #[]

end Noted

namespace Config

open Text Clause

variable {symbol keyword : String} {s : Symbols} {e : SectionLine} {h : Header}
  {lines tokens : List String} {events : List SectionLine} {declares : Header → Bool}

/-- The tokens of a line in the body of a section of the alias, unless it is a description. -/
def body? (declares : Header → Bool) (symbol : String) : SectionLine → Option (List String)
  | .body h tokens =>
    if declares h && h.symbol = symbol && token tokens ≠ "description" then some tokens else none
  | _ => none

def isNetworkObject (h : Header) : Bool := h.kind = "network"

def isServiceObject (h : Header) : Bool := h.kind = "service"

def isNetworkGroup (h : Header) : Bool := groupSort? h = some .network

theorem isNetworkObject_service (service : isServiceObject h = true) : isNetworkObject h = false := by
  simp_all [isNetworkObject, isServiceObject]

def networkObjectBody (symbol : String) (lines : List String) : List (List String) :=
  (sections "object" lines).filterMap (body? isNetworkObject symbol)

def serviceObjectBody (symbol : String) (lines : List String) : List (List String) :=
  (sections "object" lines).filterMap fun e =>
    (body? isServiceObject symbol e).filter (token · = "service")

def networkGroupBody (symbol : String) (lines : List String) : List (List String) :=
  (sections "object-group" lines).filterMap (body? isNetworkGroup symbol)

/-- Where each line gives a new value or keeps the one that there is, the last value stays. -/
theorem view_foldl {σ α : Type} {step : σ → SectionLine → σ} (view : σ → Option α)
    {value? : SectionLine → Option α} (one : ∀ s e, view (step s e) = (value? e).or (view s))
    (events : List SectionLine) (s : σ) :
    view (events.foldl step s) = ((events.filterMap value?).getLast?).or (view s) := by
  induction events using List.reverseRecOn with
  | nil => simp
  | append_singleton events e ih =>
    rw [List.foldl_append, List.foldl_cons, List.foldl_nil, one, ih, List.filterMap_append]
    cases given : value? e <;> simp [given]

theorem view_foldl_of_keeps {σ α β : Type} {step : σ → β → σ} (view : σ → α)
    (one : ∀ s e, view (step s e) = view s) (events : List β) (s : σ) :
    view (events.foldl step s) = view s := by
  induction events generalizing s with
  | nil => rfl
  | cons e events ih => rw [List.foldl_cons, ih, one]

theorem objectLine_body (s : Symbols) (h : Header) (tokens : List String) :
    (objectLine s (.body h tokens)).value =
      if token tokens = "description" then s
      else if isNetworkObject h then
        { s with networkObjects := s.networkObjects.insert h.symbol (networkValue tokens) }
      else if isServiceObject h && token tokens = "service" then
        { s with
          serviceObjects := s.serviceObjects.insert h.symbol (Service.describe (tokens.drop 1)).value }
      else s := by
  by_cases description : token tokens = "description"
  · simp [objectLine, description]
  · simp only [objectLine, description, if_false, isNetworkObject, isServiceObject]
    split
    · next kind => simp [kind]
    · next kind =>
      by_cases service : token tokens = "service" <;> simp [kind, service, within]
    · next network service =>
      have kinds : h.kind ≠ "network" ∧ h.kind ≠ "service" := ⟨network, service⟩
      simp [kinds]

theorem objectLine_other (e : SectionLine) (other : ∀ h tokens, e ≠ .body h tokens) :
    (objectLine s e).value = s := by
  cases e with
  | unnamed line => rfl
  | header h =>
    simp only [objectLine]
    split <;> rfl
  | body h tokens => exact absurd rfl (other h tokens)

theorem networkObjects_objectLine (symbol : String) (s : Symbols) (e : SectionLine) :
    (objectLine s e).value.networkObjects.get? symbol =
      ((body? isNetworkObject symbol e).map networkValue).or (s.networkObjects.get? symbol) := by
  cases e with
  | unnamed | header => rw [objectLine_other _ (by simp)]; rfl
  | body h tokens =>
    rw [objectLine_body, body?]
    grind [Table.get?_insert]

theorem serviceObjects_objectLine (symbol : String) (s : Symbols) (e : SectionLine) :
    (objectLine s e).value.serviceObjects.get? symbol =
      (((body? isServiceObject symbol e).filter (token · = "service")).map fun tokens =>
        (Service.describe (tokens.drop 1)).value).or (s.serviceObjects.get? symbol) := by
  cases e with
  | unnamed | header => rw [objectLine_other _ (by simp)]; rfl
  | body h tokens =>
    rw [objectLine_body, body?]
    grind [Table.get?_insert, isNetworkObject_service]

theorem objectLine_keeps (s : Symbols) (e : SectionLine) :
    (objectLine s e).value.names = s.names ∧
      ∀ kind, (objectLine s e).value.groups kind = s.groups kind := by
  cases e with
  | unnamed | header => rw [objectLine_other _ (by simp)]; simp
  | body h tokens =>
    rw [objectLine_body]
    split_ifs
    all_goals
      refine ⟨rfl, fun kind => ?_⟩
      cases kind <;> rfl

theorem groupLine_value (s : Symbols) (e : SectionLine) :
    (groupLine s e).value = s ∨ ∃ kind t, (groupLine s e).value = s.withGroups kind t := by
  cases e with
  | unnamed => exact .inl rfl
  | header h =>
    simp only [groupLine]
    split <;> exact .inl rfl
  | body h tokens =>
    simp only [groupLine]
    split
    · exact .inl rfl
    split
    · exact .inl rfl
    split
    · exact .inl rfl
    split
    · exact .inr ⟨_, _, rfl⟩
    split
    · exact .inr ⟨_, _, rfl⟩
    · exact .inl rfl

theorem groupLine_keeps (s : Symbols) (e : SectionLine) :
    (groupLine s e).value.names = s.names ∧
      (groupLine s e).value.networkObjects = s.networkObjects ∧
      (groupLine s e).value.serviceObjects = s.serviceObjects := by
  rcases groupLine_value s e with same | ⟨kind, t, changed⟩
  · simp [same]
  · rw [changed]
    cases kind <;> exact ⟨rfl, rfl, rfl⟩

theorem body?_eq_some : body? declares symbol e = some tokens ↔ ∃ h, e = .body h tokens ∧
    declares h = true ∧ h.symbol = symbol ∧ token tokens ≠ "description" := by
  cases e <;> grind [body?]

theorem get?_append (t : Table (List String)) (a b : String) (members : List String) :
    (append t a members).get? b = if b = a then some ((t.get? a).getD [] ++ members) else t.get? b :=
  Table.get?_insert t b a _

theorem get?_appendGroup_other (t : Table (List String)) {a b : String} (ref : String)
    (other : b ≠ a) : (appendGroup t a ref).get? b = t.get? b := by
  simp [appendGroup, get?_append, other]

theorem groupLine_member (s : Symbols) {operand : List String}
    (mine : body? isNetworkGroup symbol e = some ("network-object" :: operand))
    (literal : token operand ≠ "object") :
    (groupLine s e).value.networkGroups.get? symbol =
      some ((s.networkGroups.get? symbol).getD [] ++
        [valueOr (memberAddress s.names operand) Field.undefined]) := by
  obtain ⟨h, rfl, network, rfl, _⟩ := body?_eq_some.mp mine
  have sort : groupSort? h = some .network := by simpa [isNetworkGroup] using network
  simp [groupLine, sort, GroupSort.kind?, memberKeyword, memberValues, literal, Symbols.withGroups,
    Symbols.groups, get?_append]

theorem networkGroups_withGroups (s : Symbols) {kind : GroupKind} (t : Table (List String))
    (other : kind ≠ .network) : (s.withGroups kind t).networkGroups = s.networkGroups := by
  cases kind <;> simp_all [Symbols.withGroups]

theorem groupLine_other (s : Symbols) (other : body? isNetworkGroup symbol e = none) :
    (groupLine s e).value.networkGroups.get? symbol = s.networkGroups.get? symbol := by
  cases e with
  | unnamed => rfl
  | header h =>
    simp only [groupLine]
    split <;> rfl
  | body h tokens =>
    by_cases description : token tokens = "description"
    · simp [groupLine, description]
    cases sort : groupSort? h with
    | none => simp [groupLine, description, sort]
    | some sort' =>
      cases kind : sort'.kind? with
      | none => simp [groupLine, description, sort, kind]
      | some kind' =>
        by_cases network : kind' = .network
        · subst network
          obtain rfl : sort' = .network := by cases sort' <;> simp_all [GroupSort.kind?]
          have differ : symbol ≠ h.symbol := by
            rintro rfl
            simp [body?, isNetworkGroup, sort, description] at other
          simp only [groupLine, description, sort, kind, if_false]
          split
          · exact (get?_append _ _ _ _).trans (if_neg differ)
          split
          · exact get?_appendGroup_other _ _ differ
          · rfl
        · simp only [groupLine, description, sort, kind, if_false]
          split
          · exact congrArg (Table.get? · symbol) (networkGroups_withGroups _ _ network)
          split
          · exact congrArg (Table.get? · symbol) (networkGroups_withGroups _ _ network)
          · rfl

def memberValue (names : Table Name) (operand : List String) : String :=
  valueOr (memberAddress names operand) Field.undefined

theorem networkGroups_foldl {operands : List (List String)}
    (body : events.filterMap (body? isNetworkGroup symbol) = operands.map ("network-object" :: ·))
    (literal : ∀ o ∈ operands, token o ≠ "object") :
    (events.foldl (fun s e => (groupLine s e).value) s).networkGroups.get? symbol =
      if operands = [] then s.networkGroups.get? symbol
      else some ((s.networkGroups.get? symbol).getD [] ++ operands.map (memberValue s.names)) := by
  induction events generalizing s operands with
  | nil =>
    obtain rfl : operands = [] := by simpa using body.symm
    rfl
  | cons e events ih =>
    have names := (groupLine_keeps s e).1
    rw [List.foldl_cons]
    cases mine : body? isNetworkGroup symbol e with
    | none =>
      rw [List.filterMap_cons_none mine] at body
      rw [ih body literal, names, groupLine_other s mine]
    | some tokens =>
      rw [List.filterMap_cons_some mine] at body
      obtain ⟨o, os, rfl, rfl, bodyRest⟩ := List.map_eq_cons_iff.mp body.symm
      obtain ⟨literalFirst, literalRest⟩ := List.forall_mem_cons.mp literal
      rw [ih bodyRest.symm literalRest, names, groupLine_member s mine literalFirst]
      by_cases last : os = [] <;> simp [last, memberValue]

def symbols (lines : List String) : Symbols := (readLines lines).value

theorem symbols_eq (lines : List String) : symbols lines =
    (sections "object-group" lines).foldl (fun s e => (groupLine s e).value)
      ((sections "object" lines).foldl (fun s e => (objectLine s e).value) { names := names lines }) := by
  simp only [symbols, readLines, Noted.value_bind, Noted.value_pure, groups, objects, Noted.value_sweep]

theorem names_symbols (lines : List String) : (symbols lines).names = names lines := by
  rw [symbols_eq, view_foldl_of_keeps Symbols.names fun s e => (groupLine_keeps s e).1,
    view_foldl_of_keeps Symbols.names fun s e => (objectLine_keeps s e).1]

/-- A network object has the value of the last line of its sections. -/
theorem networkObjects_symbols (symbol : String) (lines : List String) :
    (symbols lines).networkObjects.get? symbol =
      (networkObjectBody symbol lines).getLast?.map networkValue := by
  rw [symbols_eq,
    view_foldl_of_keeps (Symbols.networkObjects · |>.get? symbol) fun s e => by
      rw [(groupLine_keeps s e).2.1],
    view_foldl (Symbols.networkObjects · |>.get? symbol) (networkObjects_objectLine symbol),
    ← List.map_filterMap, List.getLast?_map]
  exact Option.or_none

theorem serviceObjects_symbols (symbol : String) (lines : List String) :
    (symbols lines).serviceObjects.get? symbol =
      (serviceObjectBody symbol lines).getLast?.map fun tokens =>
        (Service.describe (tokens.drop 1)).value := by
  rw [symbols_eq,
    view_foldl_of_keeps (Symbols.serviceObjects · |>.get? symbol) fun s e => by
      rw [(groupLine_keeps s e).2.2],
    view_foldl (Symbols.serviceObjects · |>.get? symbol) (serviceObjects_objectLine symbol),
    ← List.map_filterMap, List.getLast?_map]
  exact Option.or_none

theorem networkGroups_symbols {operands : List (List String)} (nonempty : operands ≠ [])
    (body : networkGroupBody symbol lines = operands.map ("network-object" :: ·))
    (literal : ∀ o ∈ operands, token o ≠ "object") :
    (symbols lines).networkGroups.get? symbol =
      some (operands.map (memberValue (names lines))) := by
  have kept : ((sections "object" lines).foldl (fun s e => (objectLine s e).value)
      { names := names lines }).networkGroups = {} :=
    view_foldl_of_keeps Symbols.networkGroups
      (fun s e => (objectLine_keeps s e).2 .network) _ _
  have named : ((sections "object" lines).foldl (fun s e => (objectLine s e).value)
      { names := names lines }).names = names lines :=
    view_foldl_of_keeps Symbols.names (fun s e => (objectLine_keeps s e).1) _ _
  rw [symbols_eq, networkGroups_foldl body literal, if_neg nonempty, kept, named]
  simp [Table.get?]

theorem ne_empty_of_mem_words {line word : String} (member : word ∈ words line) : word ≠ "" := by
  simp only [words, List.mem_map, List.mem_filter] at member
  obtain ⟨chars, ⟨_, nonempty⟩, rfl⟩ := member
  simpa using nonempty

/-- A scan whose headers have aliases, which are words of a line. -/
structure Scan.IsNamed (s : Scan) : Prop where
  opened : ∀ h ∈ s.opened, h.symbol ≠ ""
  found : ∀ h tokens, .body h tokens ∈ s.found.toList → h.symbol ≠ ""

theorem scanLine_isNamed {s : Scan} (line : String) (named : s.IsNamed) :
    (scanLine keyword s line).IsNamed := by
  obtain ⟨opened, found⟩ := named
  simp only [scanLine]
  split
  · exact ⟨by simp, found⟩
  have kept : ∀ h ∈ (if startsWith " " line then s.opened else none), h.symbol ≠ "" := by
    split
    · exact opened
    · simp
  split
  · exact ⟨kept, found⟩
  · next tokens header still _ =>
    have name : header.symbol ≠ "" := kept header (by simp [still])
    refine ⟨by simpa using name, fun h tokens' member => ?_⟩
    rw [Array.toList_push, List.mem_append, List.mem_singleton] at member
    rcases member with earlier | same
    · exact found h tokens' earlier
    · cases same
      exact name
  · next first more _ all =>
    split
    · split
      · next kind symbol rest =>
        have among : symbol ∈ words line := by simp [all]
        have name := ne_empty_of_mem_words among
        refine ⟨by simpa using name, fun h tokens' member => found h tokens' ?_⟩
        simpa using member
      · refine ⟨by simp, fun h tokens' member => found h tokens' ?_⟩
        simpa using member
    · exact ⟨by simp, found⟩

theorem foldl_scanLine_isNamed {s : Scan} (lines : List String) (named : s.IsNamed) :
    (lines.foldl (scanLine keyword) s).IsNamed := by
  induction lines generalizing s with
  | nil => exact named
  | cons line lines ih => exact ih (scanLine_isNamed line named)

theorem symbol_ne_empty {h : Header} (member : .body h tokens ∈ sections keyword lines) :
    h.symbol ≠ "" :=
  (foldl_scanLine_isNamed (s := {}) lines ⟨by simp, by simp⟩).found h tokens member

theorem ne_empty_of_mem_body (member : tokens ∈ (sections keyword lines).filterMap (body? declares symbol)) :
    symbol ≠ "" := by
  obtain ⟨e, among, mine⟩ := List.mem_filterMap.mp member
  obtain ⟨h, rfl, _, rfl, _⟩ := body?_eq_some.mp mine
  exact symbol_ne_empty among

theorem ne_empty_of_mem_serviceObjectBody (member : tokens ∈ serviceObjectBody symbol lines) :
    symbol ≠ "" := by
  obtain ⟨e, among, mine⟩ := List.mem_filterMap.mp member
  have body : body? isServiceObject symbol e = some tokens := (Option.filter_eq_some_iff.mp mine).1
  exact ne_empty_of_mem_body (List.mem_filterMap.mpr ⟨e, among, body⟩)

end Config
end AccessList
