import AccessList.Document.Block
import AccessList.Document.Tag

/-! Tokens of a document, and the texts of those that are names: of anchors, tags and directives. -/
namespace AccessList.Document

inductive Directive where
  | version (major : Int)
  | handle (name expansion : String)
  | other
  deriving DecidableEq, Repr

/-- Collections in blocks have a token at their start and one at their end, though nothing is written
there. A tag has a handle, which is short for its beginning, unless it is written in full. -/
inductive Token where
  | directive (d : Directive)
  | documentStart
  | documentEnd
  | finish
  | blockList
  | blockMapping
  | blockEnd
  | flowList
  | flowListEnd
  | flowMapping
  | flowMappingEnd
  | item
  | comma
  | key
  | value
  | reference (name : String)
  | anchor (name : String)
  | tag (handle : Option String) (rest : String)
  | scalar (text : String) (isPlain : Bool)
  deriving DecidableEq, Repr

namespace Token

def isNameChar (c : Char) : Bool := c.isAlphanum || c = '-' || c = '_'

def splitName (s : List Char) : List Char × List Char := (s.takeWhile isNameChar, s.dropWhile isNameChar)

/-- Characters that may follow the name of an anchor at once. -/
def nameEnds : List Char := "?:,]\x7d%@`".toList

def anchorName (s : List Char) : Scan (String × Nat) :=
  let (name, rest) := splitName (s.drop 1)
  if !name.isEmpty && (atBlank rest || rest.head?.any nameEnds.contains) then
    .ok (String.ofList name, name.length + 1)
  else .fail rest

def tagChars : List Char := "-;/?:@&=+$,_.!~*'()[]".toList

/-- The text of a tag, in which a percent sign and two digits stand for a byte, and what follows it. The
bytes that are pending have the last one first, and so has the text. -/
def tagTextFrom (pending : List UInt8) (text : List Char) : List Char → Scan (List Char × List Char)
  | [] => finish []
  | '%' :: s =>
    match s with
    | a :: b :: rest =>
      match Text.hexValue? a, Text.hexValue? b with
      | some a, some b => tagTextFrom ((16 * a + b).toUInt8 :: pending) text rest
      | _, _ => .fail (s.dropWhile isHex)
    | s => .fail (s.dropWhile isHex)
  | c :: s =>
    if c.isAlphanum || tagChars.contains c then do
      let bytes ← decode (c :: s)
      tagTextFrom [] (c :: (bytes.reverse ++ text)) s
    else finish (c :: s)
where
  isHex (c : Char) : Bool := (Text.hexValue? c).isSome
  decode (rest : List Char) : Scan (List Char) :=
    match Text.readUtf8 pending.reverse with
    | .ok text => .ok text.toList
    | .error _ => .fail rest
  finish (rest : List Char) : Scan (List Char × List Char) := do
    let bytes ← decode rest
    return (text.reverse ++ bytes, rest)

def tagText (s : List Char) : Scan (String × List Char) := do
  let (text, rest) ← tagTextFrom [] [] s
  if text.isEmpty then .fail rest else return (String.ofList text, rest)

/-- A handle has an exclamation mark on either side, and may be one alone. -/
def handle (s : List Char) : Scan (String × List Char) :=
  match s with
  | '!' :: s =>
    if s.head? = some ' ' then .ok ("!", s)
    else
      let (name, rest) := splitName s
      if rest.head? = some '!' then .ok (String.ofList ('!' :: name ++ ['!']), rest.drop 1)
      else .fail rest
  | s => .fail s

def splitPart (s : List Char) : List Char := s.takeWhile fun c => !(c = ' ' || isBreak c)

/-- A tag in full between angle brackets, a mark alone, or a handle with what follows it. -/
def tagParts (s : List Char) : Scan (Option String × String × List Char) :=
  match s with
  | '!' :: '<' :: s => do
    let (text, rest) ← tagText s
    if rest.head? = some '>' then return (none, text, rest.drop 1) else .fail rest
  | '!' :: s => do
    if atBlank s then return (none, "!", s)
    let (handle, s) ← if (splitPart s).contains '!' then handle ('!' :: s) else pure ("!", s)
    let (text, rest) ← tagText s
    return (some handle, text, rest)
  | s => .fail s

/-- A tag ends where its part of the line does. -/
def scanTag (s : List Char) : Scan (Token × Nat) := do
  let (handle, text, rest) ← tagParts s
  if atSpace rest then return (.tag handle text, s.length - rest.length) else .fail rest

/-- How many characters tell how a tag is written. The mark at the end of a handle is looked for in the
whole part of the line. -/
def tagSight (s : List Char) : Nat :=
  let s := s.drop 1
  if s.head? = some '<' || atBlank s then 2 else ((splitPart s).takeWhile (· ≠ '!')).length + 2

def number (s : List Char) : Scan (Int × List Char) :=
  let digits := s.takeWhile Char.isDigit
  let rest := s.drop digits.length
  if digits.isEmpty then .fail rest
  else match Numeral.read (String.ofList digits) with
    | .ok n => .ok (n, rest)
    | .error cause => .error ⟨rest, .integer cause⟩

def dropSpaces (s : List Char) : List Char := s.dropWhile (· = ' ')

/-- What a directive says, and what follows it in its line. One that is not known may say anything. -/
def directiveText (name : String) (s : List Char) : Scan (Directive × List Char) :=
  match name with
  | "YAML" => do
    let (major, rest) ← number (dropSpaces s)
    if rest.head? ≠ some '.' then .fail rest
    let (_, rest) ← number (rest.drop 1)
    if atSpace rest then return (.version major, rest) else .fail rest
  | "TAG" => do
    let (handle, rest) ← handle (dropSpaces s)
    if rest.head? ≠ some ' ' then .fail rest
    let (text, rest) ← tagText (dropSpaces rest)
    if atSpace rest then return (.handle handle text, rest) else .fail rest
  | _ => .ok (.other, s.dropWhile (!isBreak ·))

/-- A directive takes a line, which may have a comment at its end. -/
def scanDirective (s : List Char) : Scan (Token × Nat) := do
  let (name, rest) := splitName (s.drop 1)
  if name.isEmpty || !atSpace rest then .fail rest
  let (what, rest) ← directiveText (String.ofList name) rest
  let rest := dropSpaces rest
  let rest := if rest.head? = some '#' then rest.dropWhile (!isBreak ·) else rest
  if atBreak rest then return (.directive what, s.length - rest.length + 1) else .fail rest

end Token
end AccessList.Document
