import AccessList.Document.Spot
import AccessList.Text.CodePoint
import AccessList.Text.Hex

/-! The texts of plain and quoted scalars. A line end inside such a scalar is folded to a blank, and empty
lines to one line end each. -/
namespace AccessList.Document

/-- A text in a document, the number of characters that it takes there, how many have been looked at to
find its end, and whether a line ends in the white space after it. -/
structure Phrase where
  text : List Char
  length : Nat
  seen : Nat
  endsLine : Bool := false

/-- White space inside a scalar: the blanks after its last line end, and its line ends, each with the
last one first. A `joined` gap follows an escaped line end, which leaves nothing. -/
structure Gap where
  blanks : List Char := []
  breaks : List Char := []
  joined : Bool := false

namespace Gap

def blank (g : Gap) (c : Char) : Gap := { g with blanks := c :: g.blanks }

def line (g : Gap) (c : Char) : Gap := { g with breaks := c :: g.breaks }

def isEmpty (g : Gap) : Bool := g.blanks.isEmpty && g.breaks.isEmpty

def folded (g : Gap) : List Char :=
  if g.joined then g.breaks
  else match g.breaks.reverse with
    | [] => g.blanks
    | ['\n'] => [' ']
    | '\n' :: more => more.reverse
    | breaks => breaks.reverse

end Gap

def indicators : List Char := "-?:,[]\x7b\x7d#&*!|>'\"%@`".toList

def separators : List Char := ",[]\x7b\x7d".toList

/-- A dash may begin a scalar, and outside brackets so may a question mark and a colon. -/
def startsPlain (flow : Bool) : List Char → Bool
  | [] => false
  | c :: s =>
    if indicators.contains c then !atBlank s && (c = '-' || (!flow && (c = '?' || c = ':')))
    else !atBlank (c :: s)

def endsPlain (flow : Bool) (c : Char) (s : List Char) : Bool :=
  c = '\t' || (flow && (separators.contains c || c = '?')) ||
    (c = ':' && (atBlank s || (flow && s.head?.any separators.contains)))

/-- A text so far, with its last character first, and the length that it takes. More than the next
character may have been looked at. -/
structure Excerpt (α : Type) where
  text : List α := []
  length : Nat := 0
  seen : Nat := 0

namespace Excerpt

variable {α : Type}

def pass (d : Excerpt α) : Excerpt α := { d with length := d.length + 1 }

def add (d : Excerpt α) (gap : List α) (c : α) : Excerpt α :=
  { d with text := c :: (gap ++ d.text), length := d.length + 1 }

def look (d : Excerpt α) (count : Nat) : Excerpt α := { d with seen := max d.seen (d.length + count) }

end Excerpt

/-- A plain scalar goes on in later lines that are indented enough, up to a comment or a boundary. The
white space after it belongs to its length. -/
def plainFrom (flow : Bool) (indent : Nat) (gap : Gap) (column : Nat) (d : Excerpt Char) :
    List Char → Phrase
  | [] => close gap (d.look 1)
  | c :: s =>
    if c = ' ' then plainFrom flow indent (gap.blank c) (column + 1) d.pass s
    else if isBreak c then
      let d := d.pass.look (boundarySight s)
      if atBoundary s then close (gap.line c) d else plainFrom flow indent (gap.line c) 0 d s
    else if !gap.isEmpty && (c = '#' || (!flow && column < indent)) then close gap (d.look 1)
    else
      let d := d.look (if c = ':' then 2 else 1)
      if endsPlain flow c s then close gap d
      else plainFrom flow indent {} (column + 1) (d.add gap.folded c) s
where
  close (gap : Gap) (d : Excerpt Char) : Phrase := ⟨d.text.reverse, d.length, d.seen, !gap.breaks.isEmpty⟩

def plain (flow : Bool) (indent : Nat) (spot : Spot) : Phrase :=
  plainFrom flow indent {} spot.column {} spot.rest

/-- What the next character of a quoted scalar is part of. -/
inductive QuoteMode where
  | text
  | doubled
  | escape
  | code (missing value : Nat)

def escapes : List (Char × Char) := [
  ('0', '\x00'), ('a', '\x07'), ('b', '\x08'), ('t', '\t'), ('\t', '\t'), ('n', '\n'),
  ('v', '\x0b'), ('f', '\x0c'), ('r', '\r'), ('e', '\x1b'), (' ', ' '), ('"', '"'), ('/', '/'),
  ('\\', '\\'), ('N', '\u0085'), ('_', '\u00a0'), ('L', '\u2028'), ('P', '\u2029')]

/-- How many digits follow an escape that names a code point. -/
def codeLength? (c : Char) : Option Nat := [('x', 2), ('u', 4), ('U', 8)].lookup c

def Gap.codes (g : Gap) : List Nat := g.folded.map Char.toNat

/-- A quoted scalar ends at its mark. Between apostrophes a doubled one is text, and between double
quotes a backslash begins an escape. A boundary inside it is an error. The text is made of code
points. -/
def quotedFrom (mark : Char) (mode : QuoteMode) (gap : Gap) (d : Excerpt Nat) :
    List Char → Except Stop Phrase
  | [] => stop (d.look 1)
  | c :: s =>
    let passed := d.pass
    match mode with
    | .doubled => quotedFrom mark .text {} (d.add gap.codes c.toNat) s
    | .escape =>
      if isBreak c then
        let d := passed.look (boundarySight s)
        if atBoundary s then stop d
        else quotedFrom mark .text { joined := true } { d with text := gap.codes ++ d.text } s
      else match codeLength? c, escapes.lookup c with
        | some length, _ => quotedFrom mark (.code length 0) gap passed s
        | none, some named => quotedFrom mark .text {} (d.add gap.codes named.toNat) s
        | none, none => stop (d.look 1)
    | .code missing value =>
      match Text.hexValue? c with
      | none => stop (d.look 1)
      | some digit =>
        let value := 16 * value + digit
        if 1 < missing then quotedFrom mark (.code (missing - 1) value) gap passed s
        else if 0x10ffff < value then stop (d.look 1) (.character value)
        else quotedFrom mark .text {} (d.add gap.codes value) s
    | .text =>
      if c = mark then
        if mark = '\'' && s.head? = some '\'' then quotedFrom mark .doubled gap passed s
        else
          let text := (gap.codes ++ d.text).reverse.map Text.ofCodePoint
          .ok { text, length := passed.length, seen := (passed.look 1).seen }
      else if c = ' ' || c = '\t' then quotedFrom mark .text (gap.blank c) passed s
      else if isBreak c then
        let d := passed.look (boundarySight s)
        if atBoundary s then stop d
        else quotedFrom mark .text { gap with blanks := [], breaks := c :: gap.breaks } d s
      else if c = '\\' && mark = '"' then quotedFrom mark .escape gap passed s
      else quotedFrom mark .text {} (d.add gap.codes c.toNat) s
where
  stop (d : Excerpt Nat) (defect : Defect := .malformed) : Except Stop Phrase := .error ⟨defect, d.seen⟩

def quoted (mark : Char) (spot : Spot) : Except Stop Phrase :=
  (quotedFrom mark .text {} { length := 1 } (spot.rest.drop 1)).mapError fun stop =>
    (spot.look stop.reach).stop stop.defect

end AccessList.Document
