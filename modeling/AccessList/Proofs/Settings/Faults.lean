import AccessList.Proofs.Settings.Given

/-! Which documents give settings. Each step of the reading has faults of its own, the steps one after another have
the faults of all of them, and so a document is refused just where one of its faults is to be found, in whatever
order the sections and the options are read. -/
namespace AccessList

open Document

/-- An outcome that is told by its faults: a result where there is none of them, and else one of them. -/
inductive Settles {ε α : Type} (fault : ε → Prop) (result : α) : Except ε α → Prop
  | fine (sound : ∀ e, ¬ fault e) : Settles fault result (.ok result)
  | refused {e : ε} (reason : fault e) : Settles fault result (.error e)

namespace Settles

variable {ε α β σ : Type} {fault fault' : ε → Prop} {result : α} {outcome : Except ε α} {e : ε}

theorem congr (same : ∀ e, fault e ↔ fault' e) (settles : Settles fault result outcome) :
    Settles fault' result outcome := by
  cases settles with
  | fine sound => exact .fine fun e reason => sound e ((same e).mpr reason)
  | refused reason => exact .refused ((same _).mp reason)

theorem reason (settles : Settles fault result outcome) (error : outcome = .error e) : fault e := by
  cases settles with
  | fine => cases error
  | refused reason => exact Except.error.inj error ▸ reason

theorem error_iff (settles : Settles fault result outcome) : (∃ e, outcome = .error e) ↔ ∃ e, fault e := by
  cases settles with
  | fine sound => exact iff_of_false nofun fun ⟨e, reason⟩ => sound e reason
  | refused reason => exact iff_of_true ⟨_, rfl⟩ ⟨_, reason⟩

theorem bind {next : α → Except ε β} {result' : β} (first : Settles fault result outcome)
    (second : Settles fault' result' (next result)) :
    Settles (fun e => fault e ∨ fault' e) result' (outcome >>= next) := by
  cases first with
  | refused reason => exact .refused (.inl reason)
  | fine sound => exact second.congr fun e => by simp [sound]

theorem foldlM {step : σ → α → Except ε σ} {put : σ → α → σ} {fault : α → ε → Prop}
    (each : ∀ state x, Settles (fault x) (put state x) (step state x)) (xs : List α) (state : σ) :
    Settles (fun e => ∃ x ∈ xs, fault x e) (xs.foldl put state) (xs.foldlM step state) := by
  induction xs generalizing state with
  | nil => exact .fine (by simp)
  | cons x xs ih =>
    rw [List.foldlM_cons]
    exact ((each state x).bind (ih (put state x))).congr fun e => by simp

end Settles

def Reading.outcome {α : Type} (x : Reading α) : Except SettingsError α := x.run.value

namespace Reading

variable {α β : Type}

@[simp] theorem outcome_pure (a : α) : (pure a : Reading α).outcome = .ok a := rfl

@[simp] theorem outcome_bind (x : Reading α) (f : α → Reading β) :
    (x >>= f).outcome = x.outcome >>= fun a => (f a).outcome := by
  change (ExceptT.bindCont f x.run.value).value = x.run.value.bind fun a => (f a).outcome
  cases x.run.value with
  | error e => rfl
  | ok a => rfl

theorem outcome_foldlM (step : β → α → Reading β) (xs : List α) (state : β) :
    (xs.foldlM step state).outcome = xs.foldlM (fun state x => (step state x).outcome) state := by
  induction xs generalizing state with
  | nil => rfl
  | cons x xs ih =>
    rw [List.foldlM_cons, List.foldlM_cons, outcome_bind]
    simp only [ih]

end Reading

/-- What a document is refused for, where values that are `silent` may stand in place of a mapping. -/
inductive Settings.Fault (silent : Value → Bool) (document : Value) : SettingsError → Prop
  | notMapping (other : document.kind ≠ .mapping) (speaks : silent document = false) :
      Fault silent document .notMapping
  | sectionNotMapping {group : Section} {value : Value} (member : (.text group.key, value) ∈ document.entries)
      (other : value.kind ≠ .mapping) (speaks : silent value = false) :
      Fault silent document (.sectionNotMapping group)
  | wrongKind {s : Setting} {v : Value} (given : document.Gives s v) (other : v.kind ≠ s.kind) :
      Fault silent document (.wrongKind s v.kind)
  | unknownLevel {name : String} (given : document.Gives .level (.scalar (.text name)))
      (unknown : ∀ level : Level, level.name ≠ name.map upperLetter) : Fault silent document (.unknownLevel name)

variable {document v : Value} {s : Setting}

namespace Draft

/-- An option is refused for a value of another kind. -/
def Misfit (option : Setting × Value) (e : SettingsError) : Prop :=
  option.2.kind ≠ option.1.kind ∧ e = .wrongKind option.1 option.2.kind

/-- A section is refused that says something and is no mapping. -/
def NoSection (entry : Scalar × Value) (e : SettingsError) : Prop :=
  ∃ g : Section, entry.1 = .text g.key ∧ entry.2.kind ≠ .mapping ∧ entry.2.isBlank = false ∧
    e = .sectionNotMapping g

theorem settles_readOption (g : Section) (d : Draft) (option : Scalar × Value) :
    Settles (fun e => ∃ x ∈ (knownOption g option).toList, Misfit x e) ((knownOption g option).toList.foldl put d)
      (readOption g d option).outcome := by
  obtain ⟨key, v⟩ := option
  simp only [knownOption, readOption]
  cases Setting.ofKey? g key with
  | none => exact .fine (by simp)
  | some s =>
    simp only [Option.map_some, Option.toList_some, List.foldl_cons, List.foldl_nil]
    by_cases fits : v.kind = s.kind
    · have taken : (d.put? s v).isSome = true := by rwa [put?_isSome]
      obtain ⟨d', put⟩ := Option.isSome_iff_exists.mp taken
      rw [show d.put (s, v) = d' by rw [Draft.put, put, Option.getD_some], put]
      exact .fine (by simp [Misfit, fits])
    · have none : d.put? s v = none := by
        rw [← Option.not_isSome_iff_eq_none, put?_isSome]
        exact fits
      rw [none]
      exact .refused ⟨(s, v), List.mem_singleton_self _, fits, rfl⟩

theorem settles_readSection (d : Draft) (entry : Scalar × Value) :
    Settles (fun e => (∃ option ∈ optionsOf entry, Misfit option e) ∨ NoSection entry e)
      ((optionsOf entry).foldl put d) (readSection d entry).outcome := by
  obtain ⟨key, content⟩ := entry
  cases found : Section.ofKey? key with
  | none =>
    have unknown (g : Section) : key ≠ .text g.key := fun known => by
      rw [Section.ofKey?_eq_some.mpr known] at found
      cases found
    simp only [optionsOf, readSection, found]
    exact .fine (by simp [NoSection, unknown])
  | some g =>
    obtain rfl := Section.ofKey?_eq_some.mp found
    by_cases shape : content.kind = .mapping
    · obtain ⟨options, rfl⟩ := Document.Value.exists_mapping shape
      simp only [optionsOf, readSection, found, Document.Value.entries, Reading.outcome_foldlM, List.foldl_flatMap]
      refine (Settles.foldlM (settles_readOption g) options d).congr fun e => ?_
      simp only [List.mem_flatMap, NoSection, shape, ne_eq, not_true_eq_false, false_and, and_false, exists_false,
        or_false]
      constructor
      · rintro ⟨option, member, x, known, misfit⟩
        exact ⟨x, ⟨option, member, known⟩, misfit⟩
      · rintro ⟨x, ⟨option, member, known⟩, misfit⟩
        exact ⟨option, member, x, known, misfit⟩
    · have read : readSection d (.text g.key, content) =
          if content.isBlank then pure d else throw (.sectionNotMapping g) := by
        cases content with
        | mapping => exact absurd rfl shape
        | scalar | list | set => simp only [readSection, found]
      simp only [optionsOf, found, Document.Value.entries_eq_nil shape, List.flatMap_nil, List.foldl_nil, read]
      cases blank : content.isBlank with
      | true => exact .fine (by simp [NoSection, blank])
      | false => exact .refused (.inr ⟨g, rfl, shape, blank, rfl⟩)

def settings (d : Draft) : Settings where
  switches := d.switches
  effectiveOnly := d.effectiveOnly
  level := (Level.ofName? d.level).getD .warning

theorem settings_default : ({} : Draft).settings = {} := by decide +kernel

theorem settles_finish (d : Draft) : Settles
    (fun e => (∀ level : Level, level.name ≠ d.level.map upperLetter) ∧ e = .unknownLevel d.level)
    d.settings d.finish := by
  rw [finish, settings]
  cases found : Level.ofName? d.level with
  | none => exact .refused ⟨Level.ofName?_eq_none.mp found, rfl⟩
  | some level =>
    have known : ¬ ∀ level : Level, level.name ≠ d.level.map upperLetter := by
      rw [← Level.ofName?_eq_none, found]
      exact nofun
    exact .fine fun e fault => known fault.1

end Draft

def Document.Value.isNull (v : Value) : Bool := v.kind = .null

namespace Settings

theorem settles_mapping {sections : List (Scalar × Value)} (once : ∀ v v', (Value.mapping sections).Gives .level v →
    (Value.mapping sections).Gives .level v' → v' = v) :
    Settles (Fault Value.isBlank (.mapping sections)) (Value.mapping sections).draft.settings
      (ofDocument (.mapping sections)).outcome := by
  have read : (ofDocument (.mapping sections)).outcome =
      sections.foldlM (fun d entry => (Draft.readSection d entry).outcome) {} >>= Draft.finish := by
    rw [ofDocument, Reading.outcome_bind, Reading.outcome_foldlM]
    rfl
  have draft : (Value.mapping sections).draft =
      sections.foldl (fun d entry => (optionsOf entry).foldl Draft.put d) {} := List.foldl_flatMap
  rw [read, draft]
  refine ((Settles.foldlM Draft.settles_readSection sections {}).bind (Draft.settles_finish _)).congr fun e => ?_
  rw [← draft]
  constructor
  · rintro (⟨⟨key, content⟩, member, ⟨⟨s, v⟩, among, other, rfl⟩ | ⟨g, rfl, other, speaks, rfl⟩⟩ | ⟨unknown, rfl⟩)
    · exact .wrongKind (Document.Value.mem_given.mp (List.mem_flatMap.mpr ⟨_, member, among⟩)) other
    · exact .sectionNotMapping member other speaks
    · rcases Document.Value.level_draft (.mapping sections) with given | default
      · exact .unknownLevel given unknown
      · exact absurd (default ▸ default_level_known) (unknown .warning)
  · intro fault
    cases fault with
    | notMapping other => exact absurd rfl other
    | sectionNotMapping member other speaks => exact .inl ⟨_, member, .inr ⟨_, rfl, other, speaks, rfl⟩⟩
    | wrongKind given other =>
      obtain ⟨entry, member, among⟩ := List.mem_flatMap.mp (Document.Value.mem_given.mpr given)
      exact .inl ⟨entry, member, .inl ⟨_, among, other, rfl⟩⟩
    | unknownLevel given unknown =>
      have level := Document.Value.value_draft_given (once _ · given) given rfl
      obtain rfl := Scalar.text.inj (Value.scalar.inj level)
      exact .inr ⟨unknown, rfl⟩

theorem settles_other (shape : document.kind ≠ .mapping) :
    Settles (Fault Value.isBlank document) document.draft.settings (ofDocument document).outcome := by
  have read : (ofDocument document).outcome = if document.isBlank then .ok {} else .error .notMapping := by
    cases document with
    | mapping => exact absurd rfl shape
    | scalar | list | set =>
      simp only [ofDocument]
      split <;> rfl
  have none : document.entries = [] := Document.Value.entries_eq_nil shape
  have defaults : document.draft.settings = {} := by
    rw [Document.Value.draft, Document.Value.given, none]
    exact Draft.settings_default
  rw [read, defaults]
  cases blank : document.isBlank with
  | true =>
    refine .fine fun e fault => ?_
    cases fault with
    | notMapping _ speaks => exact absurd (blank.symm.trans speaks) (by decide)
    | sectionNotMapping member => exact absurd (none ▸ member) List.not_mem_nil
    | wrongKind given | unknownLevel given =>
      obtain ⟨_, member, _⟩ := given
      exact absurd (none ▸ member) List.not_mem_nil
  | false => exact .refused (.notMapping shape blank)

/-- A document gives settings where it has no fault, and else it is refused for one of its faults. -/
theorem settles_ofDocument (once : ∀ v v', document.Gives .level v → document.Gives .level v' → v' = v) :
    Settles (Fault Value.isBlank document) document.draft.settings (ofDocument document).outcome := by
  by_cases shape : document.kind = .mapping
  · obtain ⟨sections, rfl⟩ := Document.Value.exists_mapping shape
    exact settles_mapping once
  · exact settles_other shape

/-- Values that are alike silent where they stand in place of a mapping make for the same faults. -/
theorem Fault.of_silent {silent silent' : Value → Bool} {e : SettingsError}
    (whole : document.kind ≠ .mapping → silent document = silent' document)
    (sections : ∀ (g : Section) content, (.text g.key, content) ∈ document.entries → content.kind ≠ .mapping →
      silent content = silent' content) (fault : Fault silent document e) : Fault silent' document e := by
  cases fault with
  | notMapping other speaks => exact .notMapping other ((whole other).symm.trans speaks)
  | sectionNotMapping member other speaks =>
    exact .sectionNotMapping member other ((sections _ _ member other).symm.trans speaks)
  | wrongKind given other => exact .wrongKind given other
  | unknownLevel given unknown => exact .unknownLevel given unknown

/-- A document is refused just where it has a fault, and for one of its faults. Whatever says nothing may stand in
place of a mapping, so that this is the same as for null alone where nothing else that says nothing does. -/
theorem refused_iff_fault (document : Value) (single : document.IsSingle) :
    ((∃ e, (ofDocument document).outcome = .error e) ↔ ∃ e, Fault Value.isBlank document e) ∧
    (∀ e, (ofDocument document).outcome = .error e → Fault Value.isBlank document e) ∧
    ((document.kind ≠ .mapping → document.isBlank = document.isNull) →
      (∀ (g : Section) content, (.text g.key, content) ∈ document.entries → content.kind ≠ .mapping →
        content.isBlank = content.isNull) →
      ((∃ e, (ofDocument document).outcome = .error e) ↔ ∃ e, Fault Value.isNull document e)) := by
  have settles := settles_ofDocument fun v v' given given' => (given.unique single given').symm
  refine ⟨settles.error_iff, fun e => settles.reason, fun whole sections => settles.error_iff.trans ?_⟩
  constructor
  · rintro ⟨e, fault⟩
    exact ⟨e, fault.of_silent whole sections⟩
  · rintro ⟨e, fault⟩
    exact ⟨e, fault.of_silent (fun other => (whole other).symm) fun g content member other =>
      (sections g content member other).symm⟩

/-- A section that is null and an unknown one are no faults, and a name that no level has is one. -/
theorem refused_iff_fault_loud :
    let document : Value := .mapping [(.text "flatten", .null), (.integer 1, .list []),
      (.text "logging", .mapping [(.boolean true, .scalar (.integer 0)), (.text "level", .scalar (.text "loud"))])]
    document.IsSingle ∧ Fault Value.isNull document (.unknownLevel "loud") ∧
      ∃ e, (ofDocument document).outcome = .error e := by
  intro document
  have single : document.IsSingle := ⟨by decide, by decide⟩
  have unknown (level : Level) : level.name ≠ "loud".map upperLetter := by
    rw [← String.toList_inj.ne, String.toList_map]
    cases level <;> decide
  have loud : Fault Value.isNull document (.unknownLevel "loud") :=
    .unknownLevel ⟨_, List.mem_cons_of_mem _ (List.mem_cons_of_mem _ List.mem_cons_self),
      List.mem_cons_of_mem _ List.mem_cons_self⟩ unknown
  have nulls (g : Section) (content : Value) (member : (.text g.key, content) ∈ document.entries)
      (other : content.kind ≠ .mapping) : content.isBlank = content.isNull := by
    simp only [document, Document.Value.entries, List.mem_cons, Prod.mk.injEq, List.not_mem_nil, or_false] at member
    rcases member with ⟨_, rfl⟩ | ⟨key, _⟩ | ⟨_, rfl⟩
    · rfl
    · cases key
    · exact absurd rfl other
  obtain ⟨_, _, same⟩ := refused_iff_fault document single
  exact ⟨single, loud, (same (absurd rfl) nulls).mpr ⟨_, loud⟩⟩

/-- An empty list as a whole document, and a section that is false, are passed over. -/
theorem empty_list_accepted :
    let document : Value := .list []
    let switched : Value := .mapping [(.text "flatten", .scalar (.boolean false))]
    Fault Value.isNull document .notMapping ∧ (ofDocument document).outcome = .ok {} ∧
      Fault Value.isNull switched (.sectionNotMapping .flatten) ∧
      (ofDocument switched).outcome = .ok {} := by
  intro document switched
  exact ⟨.notMapping nofun rfl, rfl, .sectionNotMapping List.mem_cons_self nofun rfl, by decide +kernel⟩

end Settings
end AccessList
