import AccessList.Document.Literal
import AccessList.Document.Node
import AccessList.Document.Source

/-! The value of a document. Settings are a few levels deep, so that a value is made as deep as it is asked
for, but a defect at any depth leaves the document without a value. -/
namespace AccessList.Document

namespace Tree

/-- A name stands for the node with that anchor. -/
def find (t : Tree) : Node → Node
  | .reference name => (t.anchored.lookup name).getD Parse.empty
  | node => node

def tag (t : Tree) (node : Node) : Tag :=
  match t.find node with
  | .scalar tag _ _ | .list tag _ | .mapping tag _ => tag
  | .reference _ => .unknown

def isMerge (t : Tree) (entry : Node × Node) : Bool := t.tag entry.1 = .merge

/-- The entries of a mapping with those that are merged into it, which come first. Of the mappings in a
list the first one is the last to come, for what comes later counts. A node with a name on the path to
the mapping is merged already, and gives what else it has. -/
def entries (t : Tree) : (fuel : Nat) → (path : List String) → List (Node × Node) →
    Except Defect (List (Node × Node))
  | 0, _, all => .ok (all.filter (!t.isMerge ·))
  | fuel + 1, path, all => do
    let merged ← (all.filter t.isMerge).mapM fun (_, value) => do
      let sources := match t.find value with
        | .list _ items => items.reverse
        | _ => [value]
      let parts ← sources.mapM fun node => match t.find node with
        | .mapping _ more =>
          let names := value.name?.toList ++ node.name?.toList
          if names.any path.contains then .ok (more.filter (!t.isMerge ·))
          else entries t fuel (names ++ path) more
        | _ => .error .malformed
      return parts.flatten
    return merged.flatten ++ all.filter (!t.isMerge ·)

/-- The place of a scalar that marks a value as standing in for its mapping. -/
def mark? (t : Tree) (node : Node) : Option Nat :=
  match t.find node with
  | .scalar .standIn place _ => some place
  | _ => none

/-- The text of a scalar, or of the value that stands in for a mapping, which may be in the mapping itself.
The marks at some places are none any more. -/
def text (t : Tree) (gone : List Nat) : (fuel : Nat) → Node → Except Defect String
  | 0, _ => .error .tooDeep
  | fuel + 1, node =>
    match t.find node with
    | .scalar _ _ text => .ok text
    | .mapping _ all =>
      match all.find? fun entry => (t.mark? entry.1).any fun place => !gone.contains place with
      | some (_, value) => text t gone fuel value
      | none => .error .malformed
    | _ => .error .malformed

/-- The scalar that a node with a tag stands for, or none for a collection. -/
def scalar? (t : Tree) (gone : List Nat) (fuel : Nat) (node : Node) (tag : Tag) :
    Except Defect (Option Scalar) := do
  if [Tag.list, .mapping, .set, .pairs].contains tag then return none
  if [Tag.merge, .standIn, .unknown].contains tag then throw .malformed
  let text ← t.text gone fuel node
  match t.find node with
  | .scalar _ place _ => return some (← tag.scalar place text)
  | _ => if tag = .moment then throw .noText else return some (← tag.scalar 0 text)

/-- What is still to be looked at: collections, the names of those that were or will be, and the places of
marks that have become texts, for their mappings were read. -/
structure Search where
  waiting : List Node := []
  names : List String := []
  gone : List Nat := []

/-- A collection waits for its turn, a named one once. -/
def Search.add (s : Search) (node : Node) : Search :=
  match node with
  | .reference name =>
    if s.names.contains name then s
    else { s with waiting := s.waiting ++ [node], names := name :: s.names }
  | node => { s with waiting := s.waiting ++ [node] }

def Search.tag (s : Search) (t : Tree) (node : Node) : Tag :=
  if (t.mark? node).any s.gone.contains then .text else t.tag node

def look (t : Tree) (fuel : Nat) (s : Search) (node : Node) : Except Defect Search := do
  return if (← t.scalar? s.gone fuel node (s.tag t node)).isSome then s else s.add node

def lookAtEntry (t : Tree) (fuel : Nat) (s : Search) (entry : Node × Node) : Except Defect Search := do
  if (← t.scalar? s.gone fuel entry.1 (s.tag t entry.1)).isNone then throw .malformed
  t.look fuel s entry.2

def lookAtPair (t : Tree) (fuel : Nat) (s : Search) (node : Node) : Except Defect Search :=
  match t.find node with
  | .mapping _ [(key, value)] => do t.look fuel (← t.look fuel s key) value
  | _ => .error .malformed

def lookInside (t : Tree) (fuel : Nat) (s : Search) (node : Node) : Except Defect Search := do
  match t.tag node, t.find node with
  | .list, .list _ items => items.foldlM (t.look fuel) s
  | .pairs, .list _ items => items.foldlM (t.lookAtPair fuel) s
  | .mapping, .mapping _ all | .set, .mapping _ all =>
    let entries ← t.entries fuel [] all
    let marks := entries.filterMap (t.mark? ·.1)
    entries.foldlM (t.lookAtEntry fuel) { s with gone := marks ++ s.gone }
  | _, _ => throw .malformed

/-- Looks for a defect level by level. -/
def search (t : Tree) (depth : Nat) : (fuel : Nat) → Search → Except Defect Unit
  | 0, _ => .ok ()
  | fuel + 1, s =>
    match s.waiting with
    | [] => .ok ()
    | node :: waiting => do search t depth fuel (← t.lookInside depth { s with waiting } node)

/-- The scalar of a node without a defect. A mark is a text. -/
def scalarOf (t : Tree) (fuel : Nat) (node : Node) : Scalar :=
  let tag := if (t.mark? node).isSome then .text else t.tag node
  ((t.scalar? [] fuel node tag).toOption.bind id).getD .null

/-- The value of a node without a defect. What is below the last level is left out. -/
def value (t : Tree) (fuel : Nat) : (depth : Nat) → Node → Value
  | depth, node =>
    let parts (all : List (Node × Node)) := ((t.entries fuel [] all).toOption.getD []).map fun (key, value) =>
      (t.scalarOf fuel key, value)
    let inside (node : Node) : Value := match depth with
      | 0 => .null
      | depth + 1 => value t fuel depth node
    match t.tag node, t.find node with
    | .mapping, .mapping _ all => .ofEntries ((parts all).map fun (key, value) => (key, inside value))
    | .set, .mapping _ all => .set ((parts all).map (·.1))
    | .pairs, .list _ items => .list (items.map fun node => match t.find node with
      | .mapping _ [(key, value)] => .list [inside key, inside value]
      | _ => .null)
    | _, .list _ items => .list (items.map inside)
    | _, _ => .scalar (t.scalarOf fuel node)

def read (t : Tree) (size depth : Nat) : Except Defect Value := do
  let s ← t.look size {} t.root
  t.search size (size * size) s
  return t.value size depth t.root

end Tree

def isPermitted (c : Char) : Bool :=
  let n := c.toNat
  n = 0x09 || n = 0x0a || (0x20 ≤ n && n ≤ 0x7e) || n = 0x85 || (0xa0 ≤ n && n ≤ 0xfffd) || 0x10000 ≤ n

/-- The value of a document, null if it is empty. Of several defects the one counts that is met first: a
portion is read as soon as one of its characters is looked at, and then all of them must be
permitted. -/
def read (depth : Nat) (bytes : List UInt8) : Except Defect Value := do
  let source := Source.ofBytes bytes
  let tree := Tree.ofText source.text
  let reach := match tree with
    | .ok _ => source.text.length + 1
    | .error stop => stop.reach
  if !(source.text.take (Source.loaded reach)).all isPermitted then throw .malformed
  match source.cause, tree with
  | some cause, _ =>
    if source.text.length < reach then throw (.undecodable cause)
  | none, _ => pure ()
  match tree with
  | .ok none => return .null
  | .ok (some tree) => tree.read (source.text.length + 2) depth
  | .error stop => throw stop.defect

end AccessList.Document
