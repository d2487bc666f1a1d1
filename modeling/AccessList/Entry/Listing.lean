import AccessList.Diagnostics
import AccessList.Entry.Reader
import AccessList.Text.Lines

/-! The entries of a configuration, numbered. Every access-list line counts, and the count starts
again when the name of the list changes; remarks and unknown types give no record. -/
namespace AccessList

open Text

structure UnsupportedEntry where
  line : String
  deriving DecidableEq, Repr

def UnsupportedEntry.message (e : UnsupportedEntry) : String :=
  s!"Unsupported access-list type: {e.line}"

structure Listing where
  records : List Record := []
  unsupported : List UnsupportedEntry := []
  notices : List Notice := []

namespace Listing

/-- The list of the line before, and how many lines of it have come in a row. -/
structure Count where
  list : String := ""
  number : Nat := 0

def Count.next (c : Count) (list : String) : Count :=
  if list = c.list then { c with number := c.number + 1 } else ⟨list, 1⟩

structure Progress where
  count : Count := {}
  records : Array Record := #[]
  unsupported : Array UnsupportedEntry := #[]

def readLine (s : Symbols) (p : Progress) (line : String) : Noted Notice Progress := do
  if !startsWith "access-list" line then return p
  else
    let tokens := words line
    let count := p.count.next (Clause.token (tokens.drop 1))
    let p := { p with count }
    match Clause.token (tokens.drop 2) with
    | "standard" => return { p with records := p.records.push (← Entry.standard s tokens count.number) }
    | "extended" => return { p with records := p.records.push (← Entry.extended s tokens count.number) }
    | "remark" => return p
    | _ => return { p with unsupported := p.unsupported.push ⟨trim line⟩ }

def ofLines (s : Symbols) (lines : List String) : Listing :=
  let p := Noted.sweep (readLine s) {} lines
  ⟨p.value.records.toList, p.value.unsupported.toList, p.notes⟩

def ofText (s : Symbols) (text : String) : Listing := ofLines s (lines text)

def diagnostics (l : Listing) : Diagnostics :=
  l.unsupported.map fun e => .general .warning e.message

end Listing
end AccessList
