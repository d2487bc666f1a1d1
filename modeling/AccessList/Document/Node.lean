import AccessList.Document.Lexeme

/-! Nodes of a document: scalars with their tags and places, lists, and mappings with keys of any kind.
A node with an anchor can be referred to by its name from then on, even from inside itself. -/
namespace AccessList.Document

inductive Node where
  | scalar (tag : Tag) (place : Nat) (text : String)
  | list (tag : Tag) (items : List Node)
  | mapping (tag : Tag) (entries : List (Node × Node))
  | reference (name : String)

def Node.name? : Node → Option String
  | reference name => some name
  | _ => none

structure Tree where
  root : Node
  anchored : List (String × Node) := []

/-- What is left of the tokens, how many have been read, how many characters have been looked at, how deep the
next node is, what handles of tags are short for, the names of the anchors so far, and the nodes with
anchors that are complete. -/
structure Parsing where
  lexemes : List Lexeme
  place : Nat := 0
  reach : Nat := 1
  depth : Nat := 0
  handles : List (String × String) := []
  names : List String := []
  anchored : List (String × Node) := []

/-- What reads nodes may stop at a defect. -/
abbrev Parse (α : Type) : Type := StateT Parsing (Except Stop) α

namespace Parse

def fail {α : Type} : Parse α := do throw { reach := (← get).reach }

def peek : Parse Token := do
  match (← get).lexemes with
  | [] => fail
  | lexeme :: _ =>
    modify fun p => { p with reach := lexeme.reach }
    match lexeme.token with
    | .ok token => return token
    | .error defect => throw ⟨defect, lexeme.reach⟩

def skip : Parse Unit := modify fun p => { p with lexemes := p.lexemes.drop 1, place := p.place + 1 }

def takes (token : Token) : Parse Bool := do
  if (← peek) = token then
    skip
    return true
  else return false

def expect (token : Token) : Parse Unit := do
  if !(← takes token) then fail

def isNext (tokens : List Token) : Parse Bool := return tokens.contains (← peek)

/-- The name of a tag. A mark alone leaves the tag to the node. -/
def tagName (handle : Option String) (rest : String) : Parse (Option String) := do
  let name ← match handle with
    | none => pure rest
    | some handle => match (← get).handles.lookup handle with
      | some expansion => pure (expansion ++ rest)
      | none => fail
  return if name = "!" then none else some name

/-- What is said of a node before it: the name of its anchor and that of its tag, in either order. -/
structure Properties where
  anchor : Option String := none
  isTagged : Bool := false
  tag : Option String := none

def anchor : Parse (Option String) := do
  match ← peek with
  | .anchor name =>
    skip
    return some name
  | _ => return none

def tag : Parse (Option (Option String × String)) := do
  match ← peek with
  | .tag handle rest =>
    skip
    return some (handle, rest)
  | _ => return none

def properties : Parse Properties := do
  let first ← anchor
  let tag ← tag
  let anchor ← if first.isNone && tag.isSome then anchor else pure first
  match tag with
  | none => return { anchor }
  | some (handle, rest) => return { anchor, isTagged := true, tag := ← tagName handle rest }

namespace Properties

def tagOr (p : Properties) (tag : Tag) : Tag := p.tag.elim tag Tag.ofName

/-- A scalar without quotes has the tag of its spelling, and so has one whose tag is left to it. -/
def scalar (p : Properties) (place : Nat) (text : String) (isPlain : Bool) : Node :=
  .scalar (p.tagOr (if isPlain || p.isTagged then Tag.ofPlain text else .text)) place text

end Properties

def empty : Node := .scalar .null 0 ""

def nameAnchor (name : Option String) : Parse Unit := do
  match name with
  | none => return ()
  | some name =>
    if (← get).names.contains name then fail
    modify fun p => { p with names := name :: p.names }

def keepAnchored (name : Option String) (node : Node) : Parse Node := do
  match name with
  | none => return node
  | some name =>
    modify fun p => { p with anchored := (name, node) :: p.anchored }
    return node

def maxDepth : Nat := 490

def deeper (parse : Parse Node) : Parse Node := do
  let depth := (← get).depth
  if depth = maxDepth then throw ⟨.tooDeep, (← get).reach⟩
  modify fun p => { p with depth := depth + 1 }
  let node ← parse
  modify fun p => { p with depth }
  return node

mutual

/-- A node. Only in a block may a collection be without brackets, and only as a part of a mapping may a list
stand at the column of its keys. -/
def node : (fuel : Nat) → (inBlock isPart : Bool) → Parse Node
  | 0, _, _ => fail
  | fuel + 1, inBlock, isPart => deeper do
    match ← peek with
    | .reference name =>
      skip
      if (← get).names.contains name then return .reference name else fail
    | _ =>
      let p ← properties
      let token ← peek
      let content? : Option (Parse Node) := match token with
        | .item => if isPart then some (.list (p.tagOr .list) <$> sharedItems fuel []) else none
        | .scalar text isPlain => some (do skip; return p.scalar (← get).place text isPlain)
        | .flowList => some (do skip; .list (p.tagOr .list) <$> flowItems fuel [])
        | .flowMapping => some (do skip; .mapping (p.tagOr .mapping) <$> flowEntries fuel [])
        | .blockList =>
          if inBlock then some (do skip; .list (p.tagOr .list) <$> blockItems fuel []) else none
        | .blockMapping =>
          if inBlock then some (do skip; .mapping (p.tagOr .mapping) <$> blockEntries fuel []) else none
        | _ => none
      match content? with
      | some content =>
        nameAnchor p.anchor
        keepAnchored p.anchor (← content)
      | none =>
        if p.anchor.isNone && !p.isTagged then fail
        nameAnchor p.anchor
        keepAnchored p.anchor (p.scalar (← get).place "" true)

def nodeUnless : (fuel : Nat) → (inBlock isPart : Bool) → List Token → Parse Node
  | 0, _, _, _ => fail
  | fuel + 1, inBlock, isPart, tokens => do
    if ← isNext tokens then return empty else node fuel inBlock isPart

def blockItems : (fuel : Nat) → List Node → Parse (List Node)
  | 0, _ => fail
  | fuel + 1, items => do
    if ← takes .item then
      blockItems fuel ((← nodeUnless fuel true false [.item, .blockEnd]) :: items)
    else
      expect .blockEnd
      return items.reverse

/-- The items of a list at the column of the keys around it. -/
def sharedItems : (fuel : Nat) → List Node → Parse (List Node)
  | 0, _ => fail
  | fuel + 1, items => do
    if ← takes .item then
      sharedItems fuel ((← nodeUnless fuel true false [.item, .key, .value, .blockEnd]) :: items)
    else return items.reverse

def blockEntries : (fuel : Nat) → List (Node × Node) → Parse (List (Node × Node))
  | 0, _ => fail
  | fuel + 1, entries => do
    if ← takes .key then
      let ends := [Token.key, .value, .blockEnd]
      let key ← nodeUnless fuel true true ends
      let value ← if ← takes .value then nodeUnless fuel true true ends else pure empty
      blockEntries fuel ((key, value) :: entries)
    else
      expect .blockEnd
      return entries.reverse

/-- A key in brackets and its value, either of which may be missing. -/
def flowPair : (fuel : Nat) → (close : Token) → Parse (Node × Node)
  | 0, _ => fail
  | fuel + 1, close => do
    let key ← nodeUnless fuel false false [.value, .comma, close]
    let value ← if ← takes .value then nodeUnless fuel false false [.comma, close] else pure empty
    return (key, value)

/-- The items up to the closing bracket. An item with a key is a mapping with one entry. -/
def flowItems : (fuel : Nat) → List Node → Parse (List Node)
  | 0, _ => fail
  | fuel + 1, items => do
    if ← takes .flowListEnd then return items.reverse
    if !items.isEmpty then
      expect .comma
      if ← takes .flowListEnd then return items.reverse
    let item ←
      if ← takes .key then (fun pair => .mapping .mapping [pair]) <$> flowPair fuel .flowListEnd
      else node fuel false false
    flowItems fuel (item :: items)

def flowEntries : (fuel : Nat) → List (Node × Node) → Parse (List (Node × Node))
  | 0, _ => fail
  | fuel + 1, entries => do
    if ← takes .flowMappingEnd then return entries.reverse
    if !entries.isEmpty then
      expect .comma
      if ← takes .flowMappingEnd then return entries.reverse
    let entry ←
      if ← takes .key then flowPair fuel .flowMappingEnd
      else (·, empty) <$> node fuel false false
    flowEntries fuel (entry :: entries)

end

/-- What handles are short for unless a directive says otherwise. -/
def standardHandles : List (String × String) := [("!", "!"), ("!!", Tag.scheme)]

/-- The directives before a document. There is one version at most, and each handle is declared once. -/
def directives : (fuel : Nat) → (hasVersion : Bool) → List (String × String) → Parse Unit
  | 0, _, _ => fail
  | fuel + 1, hasVersion, handles => do
    match ← peek with
    | .directive what =>
      skip
      match what with
      | .version major =>
        if hasVersion || major ≠ 1 then fail else directives fuel true handles
      | .handle name expansion =>
        if (handles.lookup name).isSome then fail
        else directives fuel hasVersion ((name, expansion) :: handles)
      | .other => directives fuel hasVersion handles
    | _ => modify fun p => { p with handles := handles ++ standardHandles }

/-- Ends of documents, and no other document after them, whose directives are read all the same. -/
def ending : (fuel : Nat) → Parse Unit
  | 0 => fail
  | fuel + 1 => do
    if ← takes .documentEnd then ending fuel
    else if !(← takes .finish) then
      directives fuel false []
      fail

/-- The one document of a text, or none if the text is empty. It begins with a marker if it has
directives. -/
def document (fuel : Nat) : Parse (Option Node) := do
  let root ← match ← peek with
    | .finish => return none
    | .directive _ | .documentStart =>
      directives fuel false []
      expect .documentStart
      match ← peek with
      | .directive _ | .documentStart | .documentEnd | .finish => pure empty
      | _ => node fuel true false
    | _ =>
      modify fun p => { p with handles := standardHandles }
      node fuel true false
  ending fuel
  return some root

end Parse

/-- The tree of a text, or none if it is empty. Reading a node takes a few steps for each of its
tokens. -/
def Tree.ofText (text : List Char) : Except Stop (Option Tree) :=
  let lexemes := Lexeme.ofText text
  match (Parse.document (4 * lexemes.length + 8)).run { lexemes } with
  | .error stop => .error stop
  | .ok (root?, after) => .ok (root?.map fun root => { root, anchored := after.anchored })

end AccessList.Document
