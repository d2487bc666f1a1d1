import AccessList.Proofs.Document
import AccessList.Settings

/-! What a document says of each setting. The options of a document are taken one after another, and where each key
stands once, none of them is taken back by a later one. -/
namespace AccessList

open Document

/-- What a document says of a setting: the value under its key in the mapping under the key of its section. -/
def Document.Value.Gives (document : Value) (s : Setting) (v : Value) : Prop :=
  ∃ options, (.text s.group.key, options) ∈ document.entries ∧ (.text s.key, v) ∈ options.entries

theorem Section.ofKey?_eq_some {key : Scalar} {g : Section} : ofKey? key = some g ↔ key = .text g.key := by
  constructor
  · intro found
    have same := List.find?_some found
    exact (of_decide_eq_true same).symm
  · rintro rfl
    exact ofKey?_key g

theorem Setting.ofKey?_eq_some {g : Section} {key : Scalar} {s : Setting} :
    ofKey? g key = some s ↔ s.group = g ∧ key = .text s.key := by
  constructor
  · intro found
    have same := List.find?_some found
    simp only [Bool.and_eq_true, decide_eq_true_eq] at same
    exact ⟨same.1, same.2.symm⟩
  · rintro ⟨rfl, rfl⟩
    exact ofKey?_key s

theorem Level.ofName?_eq_some {name : String} {level : Level} (found : ofName? name = some level) :
    level.name = name.map upperLetter := by
  have same := List.find?_some found
  exact of_decide_eq_true same

theorem Level.ofName?_eq_none {name : String} :
    ofName? name = none ↔ ∀ level : Level, level.name ≠ name.map upperLetter := by
  have mem_all (level : Level) : level ∈ all := by cases level <;> decide
  simp [ofName?, mem_all]

def knownOption (g : Section) (option : Scalar × Value) : Option (Setting × Value) :=
  (Setting.ofKey? g option.1).map (·, option.2)

/-- The known options of a section with their values. -/
def optionsOf (entry : Scalar × Value) : List (Setting × Value) :=
  match Section.ofKey? entry.1 with
  | none => []
  | some g => entry.2.entries.flatMap fun option => (knownOption g option).toList

def Document.Value.given (document : Value) : List (Setting × Value) := document.entries.flatMap optionsOf

variable {document v : Value} {s t : Setting} {g : Section} {entry : Scalar × Value} {d : Draft}

theorem mem_optionsOf :
    (s, v) ∈ optionsOf entry ↔ entry.1 = .text s.group.key ∧ (.text s.key, v) ∈ entry.2.entries := by
  unfold optionsOf
  split
  · next unknown =>
    refine iff_of_false List.not_mem_nil fun ⟨key, _⟩ => ?_
    rw [key, Section.ofKey?_key] at unknown
    cases unknown
  · next g known =>
    simp only [List.mem_flatMap, Option.mem_toList, knownOption, Option.map_eq_some_iff, Prod.mk.injEq,
      Setting.ofKey?_eq_some]
    constructor
    · rintro ⟨⟨key, v⟩, member, s, ⟨rfl, rfl⟩, rfl, rfl⟩
      exact ⟨Section.ofKey?_eq_some.mp known, member⟩
    · rintro ⟨key, member⟩
      rw [key, Section.ofKey?_key] at known
      exact ⟨_, member, s, ⟨Option.some.inj known, rfl⟩, rfl, rfl⟩

theorem Document.Value.mem_given : (s, v) ∈ document.given ↔ document.Gives s v := by
  simp only [given, List.mem_flatMap, mem_optionsOf, Gives]
  constructor
  · rintro ⟨⟨_, options⟩, member, rfl, inside⟩
    exact ⟨options, member, inside⟩
  · rintro ⟨options, member, inside⟩
    exact ⟨_, member, rfl, inside⟩

namespace Draft

/-- An option with a value of its kind is taken, and any other is passed over. -/
def put (d : Draft) (option : Setting × Value) : Draft := (d.put? option.1 option.2).getD d

def value (d : Draft) : Setting → Value
  | .stage stage => .scalar (.boolean (d.switches.isOn stage))
  | .effectiveOnly => .scalar (.boolean d.effectiveOnly)
  | .level => .scalar (.text d.level)

theorem put_misfit (misfit : v.kind ≠ s.kind) : d.put (s, v) = d := by
  have none : ¬ (d.put? s v).isSome = true := by rwa [put?_isSome]
  rw [put, Option.not_isSome_iff_eq_none.mp none, Option.getD_none]

theorem value_put (fits : v.kind = s.kind) : (d.put (s, v)).value t = if t = s then v else d.value t := by
  have taken : (d.put? s v).isSome = true := by rwa [put?_isSome]
  rw [put]
  revert taken
  fun_cases put? d s v with
  | case1 stage on =>
    intro
    cases t with
    | stage other =>
      simp only [Option.getD_some, value, Switches.isOn_set, Setting.stage.injEq]
      split
      · rfl
      · rfl
    | effectiveOnly | level => rfl
  | case2 on =>
    intro
    cases t <;> rfl
  | case3 name =>
    intro
    cases t <;> rfl
  | case4 => nofun

/-- After some options a setting has the value of one of them, or none of them was taken for it. -/
theorem value_foldl_put (given : List (Setting × Value)) (d : Draft) (s : Setting) :
    (∃ v, (s, v) ∈ given ∧ v.kind = s.kind ∧ (given.foldl put d).value s = v) ∨
      (∀ v, (s, v) ∈ given → v.kind ≠ s.kind) ∧ (given.foldl put d).value s = d.value s := by
  induction given generalizing d with
  | nil => exact .inr ⟨by simp, rfl⟩
  | cons option given ih =>
    obtain ⟨t, v⟩ := option
    rw [List.foldl_cons]
    rcases ih (d.put (t, v)) with ⟨v', member, fits, same⟩ | ⟨none, same⟩
    · exact .inl ⟨v', List.mem_cons_of_mem _ member, fits, same⟩
    by_cases taken : s = t ∧ v.kind = t.kind
    · obtain ⟨rfl, fits⟩ := taken
      rw [value_put fits, if_pos rfl] at same
      exact .inl ⟨v, List.mem_cons_self, fits, same⟩
    · have kept : (d.put (t, v)).value s = d.value s := by
        by_cases fits : v.kind = t.kind
        · rw [value_put fits, if_neg fun here => taken ⟨here, fits⟩]
        · rw [put_misfit fits]
      refine .inr ⟨fun v' member fits => ?_, same.trans kept⟩
      rcases List.mem_cons.mp member with here | later
      · obtain ⟨rfl, rfl⟩ := Prod.mk.inj here
        exact taken ⟨rfl, fits⟩
      · exact none v' later fits

end Draft

namespace Document.Value

theorem Gives.unique {v' : Value} (single : document.IsSingle) (given : document.Gives s v)
    (given' : document.Gives s v') : v = v' := by
  obtain ⟨options, member, inside⟩ := given
  obtain ⟨options', member', inside'⟩ := given'
  obtain ⟨_, rfl⟩ := Prod.mk.inj (List.inj_on_of_nodup_map single.sections member member' rfl)
  exact (Prod.mk.inj (List.inj_on_of_nodup_map (single.options _ member) inside inside' rfl)).2

/-- What the options of a document make of the defaults. -/
def draft (document : Value) : Draft := document.given.foldl Draft.put {}

theorem value_draft_given (once : ∀ v', document.Gives s v' → v' = v) (given : document.Gives s v)
    (fits : v.kind = s.kind) : document.draft.value s = v := by
  rcases Draft.value_foldl_put document.given {} s with ⟨v', member, _, same⟩ | ⟨none, _⟩
  · exact same.trans (once v' (mem_given.mp member))
  · exact absurd fits (none v (mem_given.mpr given))

theorem value_draft_default (none : ∀ v, ¬ document.Gives s v) : document.draft.value s = ({} : Draft).value s := by
  rcases Draft.value_foldl_put document.given {} s with ⟨v, member, _⟩ | ⟨_, same⟩
  · exact absurd (mem_given.mp member) (none v)
  · exact same

theorem level_draft (document : Value) :
    document.Gives .level (.scalar (.text document.draft.level)) ∨ document.draft.level = Level.name .warning := by
  rcases Draft.value_foldl_put document.given {} .level with ⟨v, member, _, same⟩ | ⟨_, same⟩
  · rw [mem_given, ← same] at member
    exact .inl member
  · exact .inr (Scalar.text.inj (Value.scalar.inj same))

end Document.Value

theorem default_level_known : Level.name .warning = (Level.name .warning).map upperLetter := by
  rw [← String.toList_inj, String.toList_map]
  decide

end AccessList
