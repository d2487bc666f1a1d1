import AccessList.Document.Value
import AccessList.Flatten.Pipeline
import AccessList.Noted
import AccessList.Notice

/-! Settings: the defaults, overridden by the known options of a document. A document maps sections to
mappings of options; unknown sections and options are noted and passed over, and a known option
must have a value of its kind. -/
namespace AccessList

open Document

inductive Section where
  | flatten
  | lookup
  | logging
  deriving DecidableEq, Repr

inductive Setting where
  | stage (stage : Stage)
  | effectiveOnly
  | level
  deriving DecidableEq, Repr

structure Settings where
  switches : Switches := {}
  effectiveOnly : Bool := false
  level : Level := .warning
  deriving DecidableEq, Repr

namespace Section

def all : List Section := [flatten, lookup, logging]

def key : Section → String
  | flatten => "flatten"
  | lookup => "lookup"
  | logging => "logging"

def ofKey? (key : Scalar) : Option Section := all.find? fun s => .text s.key = key

theorem ofKey?_key (s : Section) : ofKey? (.text s.key) = some s := by cases s <;> decide

end Section

namespace Setting

def all : List Setting := Stage.all.map stage ++ [effectiveOnly, level]

def group : Setting → Section
  | stage _ => .flatten
  | effectiveOnly => .lookup
  | level => .logging

def key : Setting → String
  | stage s => s.key
  | effectiveOnly => "effective_only"
  | level => "level"

def name (s : Setting) : String := s!"{s.group.key}.{s.key}"

def kind : Setting → Kind
  | stage _ | effectiveOnly => .boolean
  | level => .text

def ofKey? (group : Section) (key : Scalar) : Option Setting :=
  all.find? fun s => s.group = group && .text s.key = key

theorem ofKey?_key (s : Setting) : ofKey? s.group (.text s.key) = some s := by
  rcases s with s | _ | _
  · cases s <;> decide
  · decide
  · decide

end Setting

inductive SettingsError where
  | notMapping
  | sectionNotMapping (group : Section)
  | wrongKind (setting : Setting) (found : Kind)
  | unknownLevel (name : String)
  deriving DecidableEq, Repr

def SettingsError.message : SettingsError → String
  | notMapping => "Options file must contain a mapping"
  | sectionNotMapping group => s!"Section \"{group.key}\" must be a mapping"
  | wrongKind setting found =>
    s!"Option \"{setting.name}\" must be of type {setting.kind.name}, got {found.name}"
  | unknownLevel name => s!"Invalid log level: {(Scalar.text name).shown}"

/-- The dotless letter is one more small form of the capital. -/
def upperLetter (c : Char) : Char := if c = 'ı' then 'I' else c.toUpper

def Level.ofName? (name : String) : Option Level := all.find? (·.name = name.map upperLetter)

/-- Settings while they are read. The name of the level is looked up when all is read. -/
structure Draft where
  switches : Switches := {}
  effectiveOnly : Bool := false
  level : String := Level.name .warning
  deriving DecidableEq, Repr

/-- What reads a document notes as it goes along, and may stop at an error. -/
abbrev Reading (α : Type) : Type := ExceptT SettingsError (Noted Notice) α

def Reading.note (n : Notice) : Reading Unit := ExceptT.lift (Noted.note n)

namespace Draft

def put? (d : Draft) : Setting → Value → Option Draft
  | .stage s, .scalar (.boolean on) => some { d with switches := d.switches.set s on }
  | .effectiveOnly, .scalar (.boolean on) => some { d with effectiveOnly := on }
  | .level, .scalar (.text name) => some { d with level := name }
  | _, _ => none

theorem put?_isSome (d : Draft) (s : Setting) (v : Value) : (d.put? s v).isSome = (v.kind = s.kind) := by
  rcases s with _ | _ | _ <;> rcases v with (_ | _ | _ | _ | _) | _ | _ <;>
    simp [put?, Value.kind, Scalar.kind, Setting.kind]

def readOption (group : Section) (d : Draft) (entry : Scalar × Value) : Reading Draft :=
  match Setting.ofKey? group entry.1 with
  | none => do
    Reading.note (.unknownOption group.key entry.1)
    return d
  | some setting => match d.put? setting entry.2 with
    | some d => return d
    | none => throw (.wrongKind setting entry.2.kind)

/-- A section that says nothing has no options, whatever its kind. -/
def readSection (d : Draft) (entry : Scalar × Value) : Reading Draft :=
  match Section.ofKey? entry.1 with
  | none => do
    Reading.note (.unknownSection entry.1)
    return d
  | some group => match entry.2 with
    | .mapping entries => entries.foldlM (readOption group) d
    | value => if value.isBlank then return d else throw (.sectionNotMapping group)

def finish (d : Draft) : Except SettingsError Settings :=
  match Level.ofName? d.level with
  | some level => .ok { switches := d.switches, effectiveOnly := d.effectiveOnly, level }
  | none => .error (.unknownLevel d.level)

end Draft

/-- A document that says nothing leaves the defaults, whatever its kind. -/
def Settings.ofDocument : Value → Reading Settings
  | .mapping sections => do
    let d ← sections.foldlM Draft.readSection {}
    ExceptT.mk (pure d.finish)
  | value => if value.isBlank then return {} else throw .notMapping

end AccessList
