import AccessList.Document.Defect

/-! Places in the text of a document. -/
namespace AccessList.Document

/-- A place in a text: what is left of it, how many characters, lines, and characters of its line come
before, and how many characters of the text have been looked at so far. -/
structure Spot where
  rest : List Char
  index : Nat := 0
  line : Nat := 0
  column : Nat := 0
  seen : Nat := 0
  deriving Repr

/-- Where a text cannot be read on: what is left of it from there, with the last character that has been
looked at first. -/
structure Obstacle where
  rest : List Char
  defect : Defect := .malformed

abbrev Scan (α : Type) : Type := Except Obstacle α

def Scan.fail {α : Type} (rest : List Char) : Scan α := .error { rest }

/-- The characters that end a line. The last two are kept where a line end is folded. -/
def isBreak (c : Char) : Bool := c = '\n' || c = '\u2028' || c = '\u2029'

/-- This mark takes no room in its line. -/
def byteOrderMark : Char := '\ufeff'

def atBreak : List Char → Bool
  | [] => true
  | c :: _ => isBreak c

def atSpace : List Char → Bool
  | [] => true
  | c :: _ => c = ' ' || isBreak c

/-- Whether a token ends here. Tabs end tokens and begin none. -/
def atBlank : List Char → Bool
  | [] => true
  | c :: _ => c = ' ' || c = '\t' || isBreak c

def atMarker (marker : String) (s : List Char) : Bool :=
  marker.toList.isPrefixOf s && atBlank (s.drop marker.length)

/-- Whether a line begins with a marker of the start or the end of a document. -/
def atBoundary (s : List Char) : Bool := atMarker "---" s || atMarker "..." s

/-- How many characters tell whether a line begins with a marker. -/
def boundarySight (s : List Char) : Nat :=
  if "---".toList.isPrefixOf s || "...".toList.isPrefixOf s then 4 else 3

/-- The number of characters in blanks, line ends and comments. -/
def spaceLength (comment : Bool) : List Char → Nat
  | [] => 0
  | c :: s =>
    if isBreak c then spaceLength false s + 1
    else if comment || c = ' ' then spaceLength comment s + 1
    else if c = '#' then spaceLength true s + 1
    else 0

namespace Spot

def look (spot : Spot) (count : Nat) : Spot := { spot with seen := max spot.seen (spot.index + count) }

def next (spot : Spot) : Spot :=
  match spot.rest with
  | [] => spot
  | c :: s =>
    let seen := max spot.seen (spot.index + 2)
    if isBreak c then ⟨s, spot.index + 1, spot.line + 1, 0, seen⟩
    else ⟨s, spot.index + 1, spot.line, if c = byteOrderMark then spot.column else spot.column + 1, seen⟩

def skip (spot : Spot) : (count : Nat) → Spot
  | 0 => spot
  | count + 1 => spot.next.skip count

/-- Passes blanks, line ends and comments. -/
def pass (spot : Spot) : Spot := (spot.skip (spaceLength false spot.rest)).look 1

def stop (spot : Spot) (defect : Defect := .malformed) : Stop := ⟨defect, spot.seen⟩

def scan {α : Type} (spot : Spot) (read : List Char → Scan α) : Except Stop α :=
  (read spot.rest).mapError fun obstacle =>
    (spot.look (spot.rest.length - obstacle.rest.length + 1)).stop obstacle.defect

end Spot

/-- A mark at the start of a text is passed over. A further kind of line end counts as a line feed. -/
def Spot.start (text : List Char) : Spot :=
  let spot : Spot := { rest := text.map fun c => if c = '\u0085' then '\n' else c }
  if text.head? = some byteOrderMark then spot.next else spot

end AccessList.Document
