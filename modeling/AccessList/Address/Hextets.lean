import AccessList.Address.Dotted
import AccessList.Text.Hex

/-! Colon-separated hextets, the text form of the addresses of version 6. An address is read from any
spelling and written in full, with eight groups of four digits, or compressed, with the longest
run of zero groups left out. -/
namespace AccessList.Address.Hextets

open Text

def ofGroups (gs : List Nat) : Address .v6 :=
  gs.foldl (fun a g => a <<< 16 ||| BitVec.ofNat 128 g) 0

def groups (a : Address .v6) : List Nat :=
  [112, 96, 80, 64, 48, 32, 16, 0].map fun s => (a >>> s).toNat % 0x10000

def group? (s : String) : Option Nat :=
  let cs := s.toList
  if cs.isEmpty || 4 < cs.length then none
  else (cs.mapM hexValue?).map (List.foldl (16 * · + ·) 0)

/-- The last group may be a dotted quad, which stands for two. -/
def groupsOf? : List String → Option (List Nat)
  | [] => some []
  | [s] =>
    if has '.' s then (Dotted.read? s).map fun a => [a.toNat / 0x10000, a.toNat % 0x10000]
    else (group? s).map ([·])
  | s :: rest => do return (← group? s) :: (← groupsOf? rest)

def side? (s : String) : Option (List Nat) :=
  if s.isEmpty then some [] else groupsOf? (fields ':' s)

def splitGap : List Char → Option (List Char × List Char)
  | ':' :: ':' :: s => some ([], s)
  | [] => none
  | c :: s => (splitGap s).map fun (a, b) => (c :: a, b)

/-- A gap, written as a double colon, stands for one zero group or more. -/
def spelled? (s : String) : Option (Address .v6) :=
  match splitGap s.toList with
  | none => (groupsOf? (fields ':' s)).bind fun gs => if gs.length = 8 then some (ofGroups gs) else none
  | some (a, b) => do
    let high ← if has '.' (String.ofList a) then none else side? (String.ofList a)
    let low ← side? (String.ofList b)
    if high.length + low.length < 8 then
      some (ofGroups (high ++ List.replicate (8 - (high.length + low.length)) 0 ++ low))
    else none

/-- Addresses that embed one of version 4 have eighty zero bits, then sixteen equal ones. -/
def embedsQuad (a : Address .v6) : Bool :=
  let high := a.toNat >>> 32
  high = 0 || high = 0xffff

/-- A dotted quad is an accepted spelling only where the address embeds it. -/
def read? (s : String) : Option (Address .v6) :=
  (spelled? s).filter fun a => !has '.' s || embedsQuad a

def full (a : Address .v6) : String :=
  String.intercalate ":" ((groups a).map fun g => String.ofList (hexDigits 4 g))

def short (g : Nat) : String :=
  String.ofList (match (hexDigits 4 g).dropWhile (· = '0') with
    | [] => ['0']
    | ds => ds)

/-- Zero groups that follow one another. -/
structure ZeroRun where
  start : Nat := 0
  length : Nat := 0
  deriving DecidableEq, Repr

/-- A pass over groups: the place it has come to, the zeros just before that place, none after another
group, and the longest run so far. -/
structure Pass where
  place : Nat := 0
  current : ZeroRun := {}
  best : ZeroRun := {}
  deriving Repr

namespace Pass

def grown (p : Pass) : ZeroRun :=
  if p.current.length = 0 then ⟨p.place, 1⟩ else ⟨p.current.start, p.current.length + 1⟩

def step (p : Pass) (g : Nat) : Pass :=
  if g = 0 then
    { place := p.place + 1
      current := p.grown
      best := if p.best.length < p.grown.length then p.grown else p.best }
  else { place := p.place + 1, current := {}, best := p.best }

end Pass

def pass (gs : List Nat) : Pass := gs.foldl Pass.step {}

def longestRun (gs : List Nat) : ZeroRun := (pass gs).best

/-- The groups and a tail, with a run of two zero groups or more written as a double colon. -/
def withGap (gs : List Nat) (tail : List String) : String :=
  let run := longestRun gs
  let part (gs : List Nat) := gs.map short
  if 2 ≤ run.length then
    String.intercalate ":" (part (gs.take run.start)) ++ "::" ++
      String.intercalate ":" (part (gs.drop (run.start + run.length)) ++ tail)
  else String.intercalate ":" (part gs ++ tail)

def quadTail (a : Address .v6) : String := Dotted.write (a.setWidth 32)

/-- The compressed form of the address a text spells; a dotted tail is kept. -/
def compress? (s : String) : Option String :=
  (read? s).map fun a =>
    if has '.' s then withGap ((groups a).take 6) [quadTail a] else withGap (groups a) []

example : (read? "2001:db8::1").map full = some "2001:0db8:0000:0000:0000:0000:0000:0001" ∧
    compress? "1:0:0:2:0:0:0:3" = some "1:0:0:2::3" ∧
    compress? "::ffff:1.2.3.4" = some "::ffff:1.2.3.4" := by decide +kernel

end AccessList.Address.Hextets
