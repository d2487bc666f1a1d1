import AccessList.Proofs.Settings.Faults
import Mathlib.Logic.Relation

/-! Settings as the defaults with what a document gives in their places. What else stands in the document, and in
which order, makes no difference. -/
namespace AccessList

open Document

variable {document document' v : Value} {s : Setting} {settings : Settings}

theorem Level.name_injective : Function.Injective Level.name := by
  intro a b same
  cases a <;> cases b <;> first | rfl | exact absurd same (by decide)

theorem Switches.ext_isOn {a b : Switches} (same : ∀ stage, a.isOn stage = b.isOn stage) : a = b := by
  cases a
  cases b
  simp only [Switches.mk.injEq]
  exact ⟨same .network, same .protocol, same .service, same .port, same .icmpType⟩

namespace Settings

def value (settings : Settings) : Setting → Value
  | .stage stage => .scalar (.boolean (settings.switches.isOn stage))
  | .effectiveOnly => .scalar (.boolean settings.effectiveOnly)
  | .level => .scalar (.text settings.level.name)

theorem ext_value {a b : Settings} (same : ∀ s, a.value s = b.value s) : a = b := by
  have switches : a.switches = b.switches := Switches.ext_isOn fun stage =>
    Scalar.boolean.inj (Value.scalar.inj (same (.stage stage)))
  have effectiveOnly : a.effectiveOnly = b.effectiveOnly := Scalar.boolean.inj (Value.scalar.inj (same .effectiveOnly))
  have level : a.level = b.level := Level.name_injective (Scalar.text.inj (Value.scalar.inj (same .level)))
  cases a
  cases b
  rw [Settings.mk.injEq]
  exact ⟨switches, effectiveOnly, level⟩

end Settings

/-- What is stored of a value that is given: the name of the level in capitals, and any other value as it is. -/
def Setting.stored : Setting → Value → Value
  | .level, .scalar (.text name) => .scalar (.text (name.map upperLetter))
  | _, v => v

theorem Draft.value_settings {d : Draft} (known : ∃ level : Level, level.name = d.level.map upperLetter)
    (s : Setting) : d.settings.value s = s.stored (d.value s) := by
  cases s with
  | stage | effectiveOnly => rfl
  | level =>
    cases found : Level.ofName? d.level with
    | none =>
      obtain ⟨level, same⟩ := known
      exact absurd same (Level.ofName?_eq_none.mp found level)
    | some level =>
      simp only [Settings.value, settings, Setting.stored, Draft.value, found, Option.getD_some,
        Level.ofName?_eq_some found]

namespace Settings

/-- Settings that are the defaults, but for what a document gives. -/
structure Overrides (settings : Settings) (document : Value) : Prop where
  given : ∀ s v, document.Gives s v → settings.value s = s.stored v
  default : ∀ s, (∀ v, ¬ document.Gives s v) → settings.value s = ({} : Settings).value s

theorem Overrides.unique {settings' : Settings} (overrides : settings.Overrides document)
    (overrides' : settings'.Overrides document) : settings = settings' := by
  refine ext_value fun s => ?_
  by_cases given : ∃ v, document.Gives s v
  · obtain ⟨v, given⟩ := given
    rw [overrides.given s v given, overrides'.given s v given]
  · rw [not_exists] at given
    rw [overrides.default s given, overrides'.default s given]

theorem overrides_draft (once : ∀ s v v', document.Gives s v → document.Gives s v' → v' = v)
    (sound : ∀ e, ¬ Fault Value.isBlank document e) : document.draft.settings.Overrides document := by
  have known : ∃ level : Level, level.name = document.draft.level.map upperLetter := by
    by_contra unknown
    rw [not_exists] at unknown
    rcases document.level_draft with given | default
    · exact sound _ (.unknownLevel given unknown)
    · exact unknown .warning (default ▸ default_level_known)
  constructor
  · intro s v given
    have fits : v.kind = s.kind := by
      by_contra other
      exact sound _ (.wrongKind given other)
    rw [Draft.value_settings known, Document.Value.value_draft_given (once s v · given) given fits]
  · intro s none
    rw [Draft.value_settings known, Document.Value.value_draft_default none, ← Draft.settings_default]
    exact (Draft.value_settings ⟨.warning, default_level_known⟩ s).symm

/-- A document without a fault gives the settings that override the defaults with it, and it gives no others. -/
theorem ofDocument_eq_ok_iff (once : ∀ s v v', document.Gives s v → document.Gives s v' → v' = v) :
    (ofDocument document).outcome = .ok settings ↔
      (∀ e, ¬ Fault Value.isBlank document e) ∧ settings.Overrides document := by
  have settles := settles_ofDocument (once .level)
  constructor
  · intro read
    rw [read] at settles
    cases settles with
    | fine sound => exact ⟨sound, overrides_draft once sound⟩
  · rintro ⟨sound, overrides⟩
    generalize (ofDocument document).outcome = outcome at settles
    cases settles with
    | refused reason => exact absurd reason (sound _)
    | fine => exact congrArg Except.ok ((overrides_draft once sound).unique overrides)

/-- Another content of a section that says the same: the options in another order, one more that the section does not
know, or no options instead of a value that says nothing. -/
inductive SameOptions (key : Scalar) : Value → Value → Prop
  | moved {options options' : List (Scalar × Value)} (moves : options.Perm options') :
      SameOptions key (.mapping options) (.mapping options')
  | unknown (option : Scalar × Value) {options : List (Scalar × Value)}
      (other : ∀ s : Setting, key = .text s.group.key → option.1 ≠ .text s.key) :
      SameOptions key (.mapping options) (.mapping (option :: options))
  | silent {content : Value} (blank : content.isBlank = true) : SameOptions key content (.mapping [])

/-- Another document that says the same: the sections in another order, one more that is unknown, or another content
of a section that says the same. -/
inductive Rework : Value → Value → Prop
  | moved {sections sections' : List (Scalar × Value)} (moves : sections.Perm sections') :
      Rework (.mapping sections) (.mapping sections')
  | unknown (entry : Scalar × Value) {sections : List (Scalar × Value)} (other : ∀ g : Section, entry.1 ≠ .text g.key) :
      Rework (.mapping sections) (.mapping (entry :: sections))
  | content {key : Scalar} {content content' : Value} {sections : List (Scalar × Value)}
      (same : SameOptions key content content') :
      Rework (.mapping ((key, content) :: sections)) (.mapping ((key, content') :: sections))

/-- What a document says is said by another one, and what it is refused for the other is refused for. -/
structure Within (document document' : Value) : Prop where
  given : ∀ s v, document.Gives s v → document'.Gives s v
  faults : ∀ e, Fault Value.isBlank document e → Fault Value.isBlank document' e

namespace Within

variable {document'' : Value} {sections sections' : List (Scalar × Value)}

theorem refl (document : Value) : Within document document := ⟨fun _ _ => id, fun _ => id⟩

theorem trans (first : Within document document') (second : Within document' document'') : Within document document'' :=
  ⟨fun s v given => second.given s v (first.given s v given), fun e fault => second.faults e (first.faults e fault)⟩

theorem of_sections (given : ∀ s v, (Value.mapping sections).Gives s v → document.Gives s v)
    (kept : ∀ (g : Section) content, (.text g.key, content) ∈ sections → content.kind ≠ .mapping →
      content.isBlank = false → (.text g.key, content) ∈ document.entries) : Within (.mapping sections) document := by
  refine ⟨given, fun e fault => ?_⟩
  cases fault with
  | notMapping other => exact absurd rfl other
  | sectionNotMapping member other speaks => exact .sectionNotMapping (kept _ _ member other speaks) other speaks
  | wrongKind here other => exact .wrongKind (given _ _ here) other
  | unknownLevel here unknown => exact .unknownLevel (given _ _ here) unknown

theorem of_subset (known : ∀ (g : Section) content, (.text g.key, content) ∈ sections →
    (.text g.key, content) ∈ sections') : Within (.mapping sections) (.mapping sections') := by
  refine of_sections (fun s v given => ?_) fun g content member _ _ => known g content member
  obtain ⟨options, member, inside⟩ := given
  exact ⟨options, known _ _ member, inside⟩

theorem of_content {key : Scalar} {content content' : Value}
    (known : ∀ (s : Setting) (v : Value), key = .text s.group.key → (.text s.key, v) ∈ content.entries →
      (.text s.key, v) ∈ content'.entries)
    (sound : content.kind ≠ .mapping → content.isBlank = true) :
    Within (.mapping ((key, content) :: sections)) (.mapping ((key, content') :: sections)) := by
  refine of_sections (fun s v given => ?_) fun g other member shape speaks => ?_
  · obtain ⟨options, member, inside⟩ := given
    rcases List.mem_cons.mp member with here | later
    · obtain ⟨rfl, rfl⟩ := Prod.mk.inj here
      exact ⟨content', List.mem_cons_self, known s v rfl inside⟩
    · exact ⟨options, List.mem_cons_of_mem _ later, inside⟩
  · rcases List.mem_cons.mp member with here | later
    · obtain ⟨rfl, rfl⟩ := Prod.mk.inj here
      exact absurd (speaks.symm.trans (sound shape)) (by decide)
    · exact List.mem_cons_of_mem _ later

end Within

theorem Rework.within (rework : Rework document document') : Within document document' ∧ Within document' document := by
  cases rework with
  | moved moves => exact ⟨.of_subset fun g content => moves.mem_iff.mp, .of_subset fun g content => moves.mem_iff.mpr⟩
  | unknown _ other =>
    refine ⟨.of_subset fun g content => List.mem_cons_of_mem _, .of_subset fun g content member => ?_⟩
    rcases List.mem_cons.mp member with here | later
    · exact absurd (congrArg Prod.fst here).symm (other g)
    · exact later
  | content same =>
    cases same with
    | moved moves =>
      exact ⟨.of_content (fun s v _ => moves.mem_iff.mp) (absurd rfl),
        .of_content (fun s v _ => moves.mem_iff.mpr) (absurd rfl)⟩
    | unknown _ other =>
      refine ⟨.of_content (fun s v _ => List.mem_cons_of_mem _) (absurd rfl),
        .of_content (fun s v known member => ?_) (absurd rfl)⟩
      rcases List.mem_cons.mp member with here | later
      · exact absurd (congrArg Prod.fst here).symm (other s known)
      · exact later
    | silent blank =>
      have none := Document.Value.entries_of_isBlank blank
      exact ⟨.of_content (fun s v _ member => absurd (none ▸ member) List.not_mem_nil) fun _ => blank,
        .of_content (fun s v _ => nofun) (absurd rfl)⟩

/-- However a document is reworked, it says the same. -/
theorem within_of_reworks (reworks : Relation.EqvGen Rework document document') :
    Within document document' ∧ Within document' document := by
  induction reworks with
  | rel _ _ rework => exact rework.within
  | refl document => exact ⟨.refl document, .refl document⟩
  | symm _ _ _ ih => exact ih.symm
  | trans _ _ _ _ _ first second => exact ⟨first.1.trans second.1, second.2.trans first.2⟩

/-- A document that is read gives the defaults with what it gives in their places. The same settings are read of it
with the sections and the options in any order, and with any unknown ones more or fewer. -/
theorem overrides_of_read (single : document.IsSingle) (read : (ofDocument document).outcome = .ok settings) :
    settings.Overrides document ∧ ∀ document', Relation.EqvGen Rework document document' →
      (ofDocument document').outcome = .ok settings := by
  have once (s : Setting) (v v' : Value) (given : document.Gives s v) (given' : document.Gives s v') : v' = v :=
    (given.unique single given').symm
  obtain ⟨sound, overrides⟩ := (ofDocument_eq_ok_iff once).mp read
  refine ⟨overrides, fun document' reworks => ?_⟩
  obtain ⟨there, back⟩ := within_of_reworks reworks
  have once' (s : Setting) (v v' : Value) (given : document'.Gives s v) (given' : document'.Gives s v') : v' = v :=
    once s v v' (back.given s v given) (back.given s v' given')
  refine (ofDocument_eq_ok_iff once').mpr ⟨fun e fault => sound e (back.faults e fault), ?_, ?_⟩
  · exact fun s v given => overrides.given s v (back.given s v given)
  · exact fun s none => overrides.default s fun v given => none v (there.given s v given)

/-- Without an unknown section and an unknown option, and in another order, a document gives the same settings. -/
theorem overrides_of_read_shuffled :
    let quiet : Scalar × Value := (.text "logging", .mapping [(.text "level", .scalar (.text "info"))])
    let kept : Scalar × Value := (.text "icmp_type", .scalar (.boolean false))
    let document : Value :=
      .mapping [(.text "flatten", .mapping [kept, (.integer 7, .list [])]), (.boolean true, .null), quiet]
    let settings : Settings := { switches := { icmpType := false }, level := .info }
    document.IsSingle ∧ (ofDocument document).outcome = .ok settings ∧
      (ofDocument (.mapping [quiet, (.text "flatten", .mapping [kept])])).outcome = .ok settings := by
  intro quiet kept document settings
  have single : document.IsSingle := ⟨by decide, by decide⟩
  have read : (ofDocument document).outcome = .ok settings := by decide +kernel
  have reworks : Relation.EqvGen Rework (.mapping [quiet, (.text "flatten", .mapping [kept])]) document :=
    .trans _ _ _ (.rel _ _ (.moved (.swap _ _ _))) <|
    .trans _ _ _ (.rel _ _ (.content (.unknown (.integer 7, .list []) nofun))) <|
    .trans _ _ _ (.rel _ _ (.content (.moved (.swap _ _ _)))) <|
    .trans _ _ _ (.rel _ _ (.unknown (.boolean true, .null) nofun)) <|
    .rel _ _ (.moved (.swap _ _ _))
  exact ⟨single, read, (overrides_of_read single read).2 _ (.symm _ _ reworks)⟩

end Settings
end AccessList
