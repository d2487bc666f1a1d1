import AccessList.Text.Blank
import AccessList.Text.Cut

/-! Sections of a configuration. A section has a header, whose first word is a keyword, and a body of
indented lines. It ends at an empty line, a comment or a line that is not indented; a line of blanks
is passed over. -/
namespace AccessList.Config

open Text

/-- A header has its keyword, a kind and an alias, and may go on. -/
structure Header where
  keyword : String
  kind : String
  symbol : String
  rest : List String
  deriving DecidableEq, Repr

def Header.tokens (h : Header) : List String := h.keyword :: h.kind :: h.symbol :: h.rest

inductive SectionLine where
  | unnamed (line : String)
  | header (header : Header)
  | body (header : Header) (tokens : List String)
  deriving DecidableEq, Repr

/-- The section that is open, and the section lines found so far. -/
structure Scan where
  opened : Option Header := none
  found : Array SectionLine := #[]

/-- Lines that close a section without belonging to one. -/
def isSeparator (line : String) : Bool := line.isEmpty || startsWith "!" line

def scanLine (keyword : String) (s : Scan) (line : String) : Scan :=
  if isSeparator line then { s with opened := none }
  else
    let opened := if startsWith " " line then s.opened else none
    match opened, words line with
    | opened, [] => { s with opened }
    | some header, tokens => ⟨some header, s.found.push (.body header tokens)⟩
    | none, first :: more =>
      if first = keyword then
        match more with
        | kind :: symbol :: rest =>
          let header := ⟨first, kind, symbol, rest⟩
          ⟨some header, s.found.push (.header header)⟩
        | _ => ⟨none, s.found.push (.unnamed (trim line))⟩
      else ⟨none, s.found⟩

def sections (keyword : String) (lines : List String) : List SectionLine :=
  (lines.foldl (scanLine keyword) {}).found.toList

example : sections "object" ["object network A", " host 10.0.0.1", "!", " host 10.0.0.2"] =
    [.header ⟨"object", "network", "A", []⟩,
      .body ⟨"object", "network", "A", []⟩ ["host", "10.0.0.1"]] := by decide +kernel

end AccessList.Config
