import AccessList.Text.Cut
import AccessList.Text.Digit
import AccessList.Text.Quoted

/-! Arguments of a command. A form declares the options and operands of a command; arguments that fit
it are read into the options given, in order, and the operands. An option may be written by any
unambiguous beginning of its long name, and short ones may share a word. -/
namespace AccessList.Command

open Text

inductive Meaning (α : Type) where
  | switch (tag : α)
  | value (tag : α)
  | help
  | version

def Meaning.tag? {α : Type} : Meaning α → Option α
  | switch tag | value tag => some tag
  | help | version => none

def Meaning.takesValue {α : Type} : Meaning α → Bool
  | value _ => true
  | _ => false

structure Declared (α : Type) where
  names : List String
  meaning : Meaning α

/-- Of the `exclusive` options no two may be given. -/
structure Form (α : Type) where
  program : String
  options : List (Declared α)
  operands : List String
  exclusive : List α := []

/-- An operand may be missing in its place. -/
structure Given (α : Type) where
  options : List (α × Option String) := []
  operands : List (Option String) := []
  deriving DecidableEq, Repr

/-- Why arguments do not fit a form. -/
inductive Refusal where
  | ambiguous (word : String) (candidates : List String)
  | ignoredValue (names : List String) (value : String)
  | missingValue (names : List String)
  | conflict (names others : List String)
  | missingOperands (names : List String)
  | unrecognized (words : List String)
  deriving DecidableEq, Repr

def argumentName (names : List String) : String := String.intercalate "/" names

def Refusal.message : Refusal → String
  | ambiguous word candidates =>
    s!"ambiguous option: {word} could match " ++ String.intercalate ", " candidates
  | ignoredValue names value =>
    s!"argument {argumentName names}: ignored explicit argument {quote value}"
  | missingValue names => s!"argument {argumentName names}: expected one argument"
  | conflict names others =>
    s!"argument {argumentName names}: not allowed with argument {argumentName others}"
  | missingOperands names =>
    "the following arguments are required: " ++ String.intercalate ", " names
  | unrecognized words => "unrecognized arguments: " ++ String.intercalate " " words

/-- Why a command does not run. -/
inductive Stop where
  | help
  | version
  | refused (refusal : Refusal)
  deriving DecidableEq, Repr

/-- An option may have text attached, in the same word. -/
inductive Word (α : Type) where
  | operand (text : String)
  | separator
  | option (declared : Declared α) (name : String) (attached : Option String)
  | unknown (text : String)

variable {α : Type}

namespace Form

def named (form : Form α) : List (String × Declared α) :=
  form.options.flatMap fun d => d.names.map fun name => (name, d)

def find? (form : Form α) (name : String) : Option (Declared α) := form.named.lookup name

def candidates (form : Form α) (word : String) : List (String × Word α) :=
  if startsWith "--" word then
    let (head, attached) := match cut '=' word with
      | some (head, value) => (head, some value)
      | none => (word, none)
    form.named.filterMap fun (name, d) =>
      if startsWith head name then some (name, .option d name attached) else none
  else
    form.named.filterMap fun (name, d) =>
      if name.toList = word.toList.take 2 then
        some (name, .option d name (some (String.ofList (word.toList.drop 2))))
      else if startsWith word name then some (name, .option d name none)
      else none

/-- Whether a word is a number with a minus sign. One line end may follow it. -/
def isNegative (word : String) : Bool :=
  match word.toList with
  | '-' :: s =>
    let s := if s.getLast? = some '\n' then s.dropLast else s
    (!s.isEmpty && s.all isDecimal) || match cutChars '.' s with
      | some (whole, part) => whole.all isDecimal && !part.isEmpty && part.all isDecimal
      | none => false
  | _ => false

/-- A word that is no option of the form is an operand if it does not look like an option. -/
def interpret (form : Form α) (word : String) : Except Refusal (Word α) :=
  if !startsWith "-" word then .ok (.operand word)
  else match form.find? word with
    | some d => .ok (.option d word none)
    | none =>
      if word = "-" then .ok (.operand word)
      else match (cut '=' word).bind fun (name, value) => (form.find? name).map fun d => (name, d, value) with
        | some (name, d, value) => .ok (.option d name (some value))
        | none => match form.candidates word with
          | [(_, found)] => .ok found
          | [] => .ok (if isNegative word || has ' ' word then .operand word else .unknown word)
          | many => .error (.ambiguous word (many.map (·.1)))

/-- After the first double dash all words are operands. -/
def interpretAll (form : Form α) : List String → Except Refusal (List (Word α))
  | [] => .ok []
  | word :: words =>
    if word = "--" then .ok (.separator :: words.map .operand)
    else return (← form.interpret word) :: (← form.interpretAll words)

end Form

/-- The options of one word, of which the last may want the next word for its value. -/
structure Bundle (α : Type) where
  taken : List (Declared α × Option String) := []
  wanting : Option (Declared α) := none

def Bundle.ofOption (d : Declared α) : Bundle α :=
  if d.meaning.takesValue then { wanting := some d } else { taken := [(d, none)] }

def Bundle.after (d : Declared α) (b : Bundle α) : Bundle α := { b with taken := (d, none) :: b.taken }

/-- A double dash is never a value: attached to an option it is as good as nothing. -/
def attachedValue (text : String) : String := if text = "--" then "" else text

/-- An option with text attached. The text after a short switch is read as more short options. -/
def Form.unbundle (form : Form α) (d : Declared α) (short : Bool) (text : List Char) :
    Except Refusal (Bundle α) :=
  if d.meaning.takesValue then .ok { taken := [(d, some (attachedValue (String.ofList text)))] }
  else match text with
    | [] => .error (.ignoredValue d.names "")
    | c :: s => match if short then form.find? (String.ofList ['-', c]) else none with
      | none => .error (.ignoredValue d.names (String.ofList (c :: s)))
      | some next =>
        Bundle.after d <$> if s.isEmpty then pure (.ofOption next) else form.unbundle next true s

structure Intake (α : Type) where
  given : Given α := {}
  missing : List String
  extras : List String := []

namespace Intake

variable [DecidableEq α]

def rival? (form : Form α) (p : Intake α) (tag : α) : Option (List String) :=
  if !form.exclusive.contains tag then none
  else
    let others := form.exclusive.filter fun t => t ≠ tag && p.given.options.any (·.1 = t)
    others.head?.bind fun other =>
      (form.options.find? (·.meaning.tag? = some other)).map (·.names)

def take (form : Form α) (p : Intake α) (option : Declared α × Option String) : Except Stop (Intake α) :=
  match option.1.meaning with
  | .help => .error .help
  | .version => .error .version
  | .switch tag | .value tag =>
    match p.rival? form tag with
    | some others => .error (.refused (.conflict option.1.names others))
    | none => .ok { p with given.options := p.given.options ++ [(tag, option.2)] }

def extra (p : Intake α) (word : String) : Intake α := { p with extras := p.extras ++ [word] }

def operand (p : Intake α) (word : String) (text : Option String) : Intake α :=
  match p.missing with
  | [] => p.extra word
  | _ :: missing => { p with given.operands := p.given.operands ++ [text], missing }

/-- The first double dash belongs to the operand before it or after it, which then is what it is. Any
other operand that is a double dash takes its place and is nothing. -/
def read (form : Form α) (p : Intake α) : List (Word α) → Except Stop (Intake α)
  | [] => .ok p
  | .operand word :: .separator :: words =>
    if p.missing.isEmpty then ((p.extra word).extra "--").read form words
    else (p.operand word (some word)).read form words
  | .operand word :: words =>
    (p.operand word (if word = "--" then none else some word)).read form words
  | .separator :: .operand word :: words =>
    let p := if p.missing.isEmpty then p.extra "--" else p
    (p.operand word (some word)).read form words
  | .separator :: words => (p.extra "--").read form words
  | .unknown word :: words => (p.extra word).read form words
  | .option d name attached :: words => do
    let bundle ← match attached with
      | none => pure (.ofOption d)
      | some text => (form.unbundle d (!startsWith "--" name) text.toList).mapError Stop.refused
    match bundle.wanting with
    | none =>
      let p ← bundle.taken.foldlM (take form) p
      p.read form words
    | some d => match words with
      | .operand value :: words => do
        let p ← (bundle.taken ++ [(d, some value)]).foldlM (take form) p
        p.read form words
      | _ => .error (.refused (.missingValue d.names))

end Intake

/-- Words that may be ambiguous are complained of first, missing operands later, extra words last. -/
def Form.read [DecidableEq α] (form : Form α) (words : List String) : Except Stop (Given α) := do
  let words ← (form.interpretAll words).mapError Stop.refused
  let p ← Intake.read form { missing := form.operands } words
  if !p.missing.isEmpty then .error (.refused (.missingOperands p.missing))
  else if !p.extras.isEmpty then .error (.refused (.unrecognized p.extras))
  else return p.given

end AccessList.Command
