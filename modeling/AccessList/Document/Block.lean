import AccessList.Document.Phrase

/-! The texts of block scalars: indented lines as they are, or folded, after a header that says how the
text ends. -/
namespace AccessList.Document.Block

inductive Ending where
  | strip
  | clip
  | keep
  deriving DecidableEq, Repr

/-- How a block is to be read. The increment says how far its lines are indented. -/
structure Header where
  ending : Ending := .clip
  increment : Option Nat := none

def ending? : List Char → Option Ending
  | '+' :: _ => some .keep
  | '-' :: _ => some .strip
  | _ => none

/-- The marks of a header, and what follows them. The increment and the ending stand in either order, and
no increment is zero. -/
def marks (s : List Char) : Scan (Header × List Char) :=
  let first? := ending? s
  let s := if first?.isSome then s.drop 1 else s
  match (s.head?.filter Char.isDigit).map fun c => c.toNat - 0x30 with
  | none => .ok ({ ending := first?.getD .clip }, s)
  | some 0 => .fail s
  | some n =>
    let s := s.drop 1
    let second? := if first?.isNone then ending? s else none
    .ok (⟨(first?.or second?).getD .clip, some n⟩, if second?.isSome then s.drop 1 else s)

def header (s : List Char) : Scan (Header × Nat) := do
  let (header, rest) ← marks s
  if !atSpace rest then .fail rest
  let after := rest.dropWhile (· = ' ')
  let after := if after.head? = some '#' then after.dropWhile (!isBreak ·) else after
  if atBreak after then return (header, s.length - after.length + 1) else .fail after

def wholeLines (s : List Char) : List (List Char) :=
  s.foldr (fun c lines => match isBreak c, lines with
    | true, lines => [c] :: lines
    | false, [] => [[c]]
    | false, line :: lines => (c :: line) :: lines) []

def depth (line : List Char) : Nat := (line.takeWhile (· = ' ')).length

def isEmptyLine (line : List Char) : Bool := (line.drop (depth line)).head?.any isBreak

/-- A block without an increment is indented as far as its first line with a text, and as the empty lines
before it. -/
def indentOf (least : Nat) (lines : List (List Char)) : Nat :=
  let first := (lines.dropWhile isEmptyLine).take 1
  (lines.takeWhile isEmptyLine ++ first).foldl (fun n line => max n (depth line)) least

/-- A block that is being read: its text with the last character first, its length, the empty lines since
the last line with a text, the end of that line, and whether it began with a blank. -/
structure Progress where
  text : List Char := []
  length : Nat := 0
  breaks : List Char := []
  last : List Char := []
  indented : Bool := false

namespace Progress

/-- What stands between two lines with a text, last character first. In a folded block a line feed becomes
a blank, or goes where empty lines follow, unless one of the lines is indented further. -/
def between (p : Progress) (folded : Bool) (line : List Char) : List Char :=
  let further := p.indented || line.head? = some ' ' || line.head? = some '\t'
  if folded && p.last = ['\n'] && !further then
    if p.breaks.isEmpty then [' '] else p.breaks
  else p.breaks ++ p.last

def add (p : Progress) (folded : Bool) (depth : Nat) (line : List Char) : Progress :=
  let chars := line.takeWhile (!isBreak ·)
  { text := chars.reverse ++ (p.between folded line ++ p.text), length := p.length + depth + line.length,
    last := line.drop chars.length, indented := line.head? = some ' ' || line.head? = some '\t' }

def close (p : Progress) (ending : Ending) (depth : Nat) : Phrase :=
  let tail := match ending with
    | .strip => []
    | .clip => p.last
    | .keep => p.breaks ++ p.last
  { text := (tail ++ p.text).reverse, length := p.length + depth, seen := p.length + depth + 1 }

end Progress

/-- A block ends before a line that is not indented enough. -/
def readFrom (folded : Bool) (ending : Ending) (indent : Nat) (p : Progress) : List (List Char) → Phrase
  | [] => p.close ending 0
  | line :: more =>
    let room := min indent (depth line)
    match line.drop room with
    | [] => p.close ending room
    | c :: s =>
      if isBreak c then
        readFrom folded ending indent { p with length := p.length + room + 1, breaks := c :: p.breaks } more
      else if room = indent then readFrom folded ending indent (p.add folded room (c :: s)) more
      else p.close ending room

/-- The block after a mark, inside a collection that is indented by less than `least`. -/
def read (folded : Bool) (least : Nat) (s : List Char) : Scan Phrase := do
  let (header, length) ← header s
  let least := max 1 least
  let lines := wholeLines (s.drop length)
  let indent := match header.increment with
    | some n => least + n - 1
    | none => indentOf least lines
  let phrase := readFrom folded header.ending indent {} lines
  return { phrase with length := length + phrase.length, seen := length + phrase.seen }

example : (read false 0 "\n a\n\n  b\nc".toList).toOption.map Phrase.text = some "a\n\n b\n".toList := by
  decide +kernel

end AccessList.Document.Block
