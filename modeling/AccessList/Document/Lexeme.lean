import AccessList.Document.Token

/-! The tokens of a text in order. A key comes before its value without a mark of its own: only the colon
after it tells. Tokens from a possible key on therefore wait until it is settled. -/
namespace AccessList.Document

/-- A token, or the defect after which there are no more, and how many characters have been looked at by
the time it is known. -/
structure Lexeme where
  token : Except Defect Token
  reach : Nat

/-- A token that may turn out to begin a key: how deep in brackets it stands, its number among all tokens,
and its place. A key is required where nothing else can stand. -/
structure PossibleKey where
  level : Nat
  number : Nat
  required : Bool
  index : Nat
  line : Nat
  column : Nat

/-- Reading tokens from a place on: the depth in brackets, the columns of the open blocks with the innermost
first, whether a key may begin here, the keys that are possible, the number of tokens that are settled,
and those that wait. -/
structure Lexer where
  spot : Spot
  level : Nat := 0
  columns : List Nat := []
  mayBeKey : Bool := true
  keys : List PossibleKey := []
  settled : Nat := 0
  waiting : List Token := []

/-- How far from its start the colon of a key may stand. -/
def keyReach : Nat := 1024

namespace Lexer

def isFlow (l : Lexer) : Bool := l.level ≠ 0

def push (l : Lexer) (token : Token) : Lexer := { l with waiting := l.waiting ++ [token] }

def read (l : Lexer) (token : Token) (length : Nat) : Lexer :=
  { l.push token with spot := l.spot.skip length }

/-- Takes a possible key for none, unless it is required. -/
def drop (l : Lexer) (isGone : PossibleKey → Bool) : Except Stop Lexer :=
  if l.keys.any fun key => isGone key && key.required then .error l.spot.stop
  else .ok { l with keys := l.keys.filter (!isGone ·) }

/-- A key is in one line, and its colon is near. -/
def dropStale (l : Lexer) : Except Stop Lexer :=
  l.drop fun key => key.line ≠ l.spot.line || key.index + keyReach < l.spot.index

def dropHere (l : Lexer) : Except Stop Lexer := l.drop (·.level = l.level)

def noteKey (l : Lexer) : Except Stop Lexer := do
  if !l.mayBeKey then return l
  let l ← l.dropHere
  let spot := l.spot
  return { l with keys := {
    level := l.level, number := l.settled + l.waiting.length,
    required := !l.isFlow && l.columns.head? = some spot.column,
    index := spot.index, line := spot.line, column := spot.column } :: l.keys }

def closeBlocks (l : Lexer) (isClosed : Nat → Bool) : Lexer :=
  if l.isFlow then l
  else
    let closed := l.columns.takeWhile isClosed
    { l with columns := l.columns.drop closed.length, waiting := l.waiting ++ closed.map fun _ => .blockEnd }

def isDeeper (l : Lexer) (column : Nat) : Bool := l.columns.head?.all (· < column)

def openBlock (l : Lexer) (token : Token) : Lexer :=
  if l.isDeeper l.spot.column then { l.push token with columns := l.spot.column :: l.columns } else l

/-- An item or a key that has a mark, which must stand where a key may begin unless it is in brackets. -/
def marked (l : Lexer) (block token : Token) (mayBeKey : Bool) : Except Stop Lexer := do
  if !l.isFlow && !l.mayBeKey then throw l.spot.stop
  let l := if l.isFlow then l else l.openBlock block
  let l ← { l with mayBeKey }.dropHere
  return l.read token 1

/-- The colon before a value. It makes a key of what began at the possible key, if there is one. -/
def colon (l : Lexer) : Except Stop Lexer :=
  match l.keys.find? (·.level = l.level) with
  | none => l.marked .blockMapping .value !l.isFlow
  | some key =>
    let count := key.number - l.settled
    let isNew := !l.isFlow && l.isDeeper key.column
    let tokens := if isNew then [.blockMapping, .key] else [.key]
    let l := { l with
      waiting := l.waiting.take count ++ tokens ++ l.waiting.drop count
      columns := if isNew then key.column :: l.columns else l.columns
      keys := l.keys.filter (·.level ≠ l.level), mayBeKey := false }
    .ok (l.read .value 1)

def openFlow (l : Lexer) (token : Token) : Except Stop Lexer := do
  let l ← l.noteKey
  return { l with level := l.level + 1, mayBeKey := true }.read token 1

def closeFlow (l : Lexer) (token : Token) : Except Stop Lexer := do
  let l ← l.dropHere
  return { l with level := l.level - 1, mayBeKey := false }.read token 1

/-- What begins or ends a document closes all blocks. -/
def boundary (l : Lexer) (token : Token) (length : Nat) : Except Stop Lexer := do
  let l ← (l.closeBlocks fun _ => true).dropHere
  return { l with mayBeKey := false }.read token length

def part (l : Lexer) (scan : List Char → Scan (Token × Nat)) : Except Stop Lexer := do
  let l ← l.noteKey
  let (token, length) ← l.spot.scan scan
  return { l with mayBeKey := false }.read token length

def anchored (l : Lexer) (token : String → Token) : Except Stop Lexer :=
  l.part fun s => (Token.anchorName s).map fun (name, length) => (token name, length)

def tagged (l : Lexer) : Except Stop Lexer :=
  { l with spot := l.spot.look (Token.tagSight l.spot.rest) }.part Token.scanTag

def readPhrase (l : Lexer) (phrase : Phrase) (isPlain : Bool) : Lexer :=
  { l with spot := l.spot.look phrase.seen }.read (.scalar (String.ofList phrase.text) isPlain) phrase.length

/-- The column from which on the lines of a scalar in a block are part of it. -/
def indent (l : Lexer) : Nat := l.columns.head?.elim 0 (· + 1)

def quotedScalar (l : Lexer) (mark : Char) : Except Stop Lexer := do
  let l ← l.noteKey
  let phrase ← quoted mark l.spot
  return { l with mayBeKey := false }.readPhrase phrase false

/-- After a plain scalar that goes up to the end of a line a key may begin. -/
def plainScalar (l : Lexer) : Except Stop Lexer := do
  let l ← l.noteKey
  let phrase := plain l.isFlow l.indent l.spot
  return { l with mayBeKey := phrase.endsLine }.readPhrase phrase true

def blockScalar (l : Lexer) (folded : Bool) : Except Stop Lexer := do
  let l ← { l with mayBeKey := true }.dropHere
  let phrase ← l.spot.scan fun s => Block.read folded l.indent (s.drop 1)
  return l.readPhrase { phrase with length := phrase.length + 1, seen := phrase.seen + 1 } false

def directive (l : Lexer) : Except Stop Lexer := do
  let (token, length) ← l.spot.scan Token.scanDirective
  l.boundary token length

/-- How many characters tell what begins at a place. -/
def sight (l : Lexer) (c : Char) (after : List Char) : Nat :=
  if l.spot.column = 0 && (c = '-' || c = '.') then
    if after.take 2 = [c, c] then 4 else 3
  else if "-?:%@`\t".toList.contains c || (l.isFlow && (c = '|' || c = '>')) then 2
  else 1

def token (l : Lexer) : Except Stop Lexer :=
  match l.spot.rest with
  | [] => do return { ← l.boundary .finish 0 with keys := [] }
  | c :: after =>
    let s := c :: after
    let isMark := l.isFlow || atBlank after
    let l := { l with spot := l.spot.look (l.sight c after) }
    if c = '%' && l.spot.column = 0 then l.directive
    else if l.spot.column = 0 && atMarker "---" s then l.boundary .documentStart 3
    else if l.spot.column = 0 && atMarker "..." s then l.boundary .documentEnd 3
    else if c = '[' then l.openFlow .flowList
    else if c = '\x7b' then l.openFlow .flowMapping
    else if c = ']' then l.closeFlow .flowListEnd
    else if c = '\x7d' then l.closeFlow .flowMappingEnd
    else if c = ',' then do return { ← l.dropHere with mayBeKey := true }.read .comma 1
    else if c = '-' && atBlank after then l.marked .blockList .item true
    else if c = '?' && isMark then l.marked .blockMapping .key !l.isFlow
    else if c = ':' && isMark then l.colon
    else if c = '*' then l.anchored .reference
    else if c = '&' then l.anchored .anchor
    else if c = '!' then l.tagged
    else if (c = '|' || c = '>') && !l.isFlow then l.blockScalar (c = '>')
    else if c = '\'' || c = '"' then l.quotedScalar c
    else if startsPlain l.isFlow s then l.plainScalar
    else .error l.spot.stop

/-- Reads on to the end of the next token. Outside brackets a key may begin in a new line. -/
def step (l : Lexer) : Except Stop Lexer := do
  let spot := l.spot.pass
  let l ← { l with spot, mayBeKey := l.mayBeKey || (!l.isFlow && spot.line ≠ l.spot.line) }.dropStale
  let l ← (l.closeBlocks (spot.column < ·)).token
  l.dropStale

def isDone (lexemes : List Lexeme) : Bool := lexemes.any fun lexeme => lexeme.token.toOption = some .finish

/-- Settles the tokens before the first possible key. -/
def settle (l : Lexer) : List Lexeme × Lexer :=
  let count := l.keys.foldl (fun n key => min n (key.number - l.settled)) l.waiting.length
  ((l.waiting.take count).map fun token => ⟨.ok token, l.spot.seen⟩,
    { l with waiting := l.waiting.drop count, settled := l.settled + count })

/-- Every step but the last takes a character at least. -/
def run : (fuel : Nat) → Lexer → List Lexeme
  | 0, _ => []
  | fuel + 1, l =>
    match l.step with
    | .error stop => [⟨.error stop.defect, stop.reach⟩]
    | .ok l =>
      let (lexemes, l) := l.settle
      if isDone lexemes then lexemes else lexemes ++ run fuel l

end Lexer

def Lexeme.ofText (text : List Char) : List Lexeme := Lexer.run (text.length + 2) { spot := .start text }

example : (Lexeme.ofText "a: [b]".toList).filterMap (·.token.toOption) = [.blockMapping, .key,
    .scalar "a" true, .value, .flowList, .scalar "b" true, .flowListEnd, .blockEnd, .finish] := by
  decide +kernel

end AccessList.Document
