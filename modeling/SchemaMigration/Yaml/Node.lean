import SchemaMigration.Text.Numeral
import SchemaMigration.Yaml.Layout
import SchemaMigration.Yaml.Tag

/-!
# YAML nodes

A document consists of nodes: scalars, lists and mappings, each with a tag that names the
type of its value. An alias stands for the node that has the anchor of its name.

## Main Definitions

* `Node` - a node of a document
* `Document` - the nodes of a document, and which of them is its root
* `Reading` - the tokens still to come, and the nodes read so far
* `node`, `blockItems`, `blockEntries`, `flowItems`, `flowEntries` - reading nodes
* `Document.ofText?` - the only document of a text, if it has one

## Design Notes

An alias within a list or a mapping may stand for that very node. Therefore the nodes of a
document are numbered, and what holds other nodes holds their numbers.
-/

namespace SchemaMigration.Yaml

open Text

/-- A node of a document, with the numbers of the nodes that it holds. -/
inductive Node
  | scalar (tag : Tag) (text : Text)
  | list (tag : Tag) (items : List Nat)
  | map (tag : Tag) (entries : List (Nat × Nat))
  deriving DecidableEq

/-- The type of a node's value. -/
def Node.tag : Node → Tag
  | scalar tag _ | list tag _ | map tag _ => tag

/-- The nodes of a document, and the number of its root. -/
structure Document where
  nodes : Array Node
  root : Nat

/-- The tokens still to come, and the nodes read so far. -/
structure Reading where
  tokens : List Token
  nodes : Array Node
  /-- The numbers of the nodes by their anchors. -/
  anchors : List (Text × Nat)
  /-- What the tag handles stand for. -/
  handles : List (Text × Text)
  /-- The number of lists and mappings around the next token. -/
  level : Nat

/-- A step of reading nodes that may fail. -/
abbrev NodeReader := StateT Reading (Except Fault)

namespace NodeReader

/-- The handles that every document has. -/
def commonHandles : List (Text × Text) := [("!", "!"), ("!!", "tag:yaml.org,2002:")]

/-- The next token, which stays. -/
def peek : NodeReader Token := do
  match (← get).tokens with
  | [] => return .finish
  | .fault fault :: _ => throw fault
  | token :: _ => return token

/-- Passes over the next token. -/
def skip : NodeReader Unit := modify fun reading => { reading with tokens := reading.tokens.tail }

/-- Passes over the next token if it is the given one, and tells whether it was. -/
def accept (token : Token) : NodeReader Bool := do
  if (← peek) = token then
    skip
    return true
  else return false

/-- Passes over the next token, which must be the given one. -/
def expect (token : Token) : NodeReader Unit := do
  unless ← accept token do throw .grammar

/-- What stands in front of the content of a node. -/
structure Properties where
  anchor : Option Text
  tag : Option Text

/-- An anchor, if one is next. -/
def anchor? : NodeReader (Option Text) := do
  match ← peek with
  | .anchor name =>
    skip
    return some name
  | _ => return none

/-- A tag, if one is next. -/
def tag? : NodeReader (Option TagName) := do
  match ← peek with
  | .tag name =>
    skip
    return some name
  | _ => return none

/-- The full name of a tag. -/
def tagText : TagName → NodeReader Text
  | .whole name => return name
  | .behind handle suffix => do
    match (← get).handles.lookup handle with
    | some expansion => return expansion ++ suffix
    | none => throw .grammar

/-- An anchor and a tag, in either order. -/
def properties : NodeReader Properties := do
  let first ← anchor?
  let name ← tag?
  let anchor ← if first.isNone && name.isSome then anchor? else pure first
  match name with
  | none => return ⟨anchor, none⟩
  | some name => return ⟨anchor, some (← tagText name)⟩

/-- One more node, with the anchor that it has; no other node may have that. -/
def add (anchor : Option Text) (node : Node) : NodeReader Nat := do
  let reading ← get
  if anchor.any fun name => (reading.anchors.lookup name).isSome then throw .reference
  let number := reading.nodes.size
  let named := (anchor.map fun name => (name, number)).toList
  set { reading with nodes := reading.nodes.push node, anchors := named ++ reading.anchors }
  return number

/-- A node that is not written: it stands for no value. -/
def missing : NodeReader Nat := add none (.scalar .null [])

/-- The number of lists and mappings that may enclose each other. -/
def nestingLimit : Nat := 488

/-- One more node that holds what is read behind it, unless too many enclose each other. -/
def addHolding {α : Type} (anchor : Option Text) (node : List α → Node)
    (parts : NodeReader (List α)) : NodeReader Nat := do
  let number ← add anchor (node [])
  let level := (← get).level
  if nestingLimit ≤ level then throw .depth
  modify fun reading => { reading with level := level + 1 }
  let parts ← parts
  modify fun reading =>
    { reading with level, nodes := reading.nodes.setIfInBounds number (node parts) }
  return number

/-- The node that has an anchor. -/
def named (name : Text) : NodeReader Nat := do
  match (← get).anchors.lookup name with
  | some number => return number
  | none => throw .reference

/-- Where a node stands, which decides the forms that it may have. -/
inductive Place
  /-- Within brackets. -/
  | flow
  /-- In a block. -/
  | block
  /-- A key or value of a mapping in a block, where a list need not be indented. -/
  | entry
  deriving DecidableEq

mutual

/-- A node with its properties. -/
def node (place : Place) : Nat → NodeReader Nat
  | 0 => throw .grammar
  | fuel + 1 => do
    match ← peek with
    | .alias name =>
      skip
      named name
    | _ =>
      let properties ← properties
      content place properties fuel

/-- The content of a node. -/
def content (place : Place) (properties : Properties) : Nat → NodeReader Nat
  | 0 => throw .grammar
  | fuel + 1 => do
    let anchor := properties.anchor
    let tag := properties.tag
    let next ← peek
    if next = .item && place = .entry then
      addHolding anchor (.list (.ofList tag)) (looseItems fuel)
    else match next with
    | .scalar text isPlain =>
      skip
      add anchor (.scalar (.ofScalar tag isPlain text) text)
    | .openList =>
      skip
      addHolding anchor (.list (.ofList tag)) (flowItems true fuel)
    | .openMap =>
      skip
      addHolding anchor (.map (.ofMap tag)) (flowEntries true fuel)
    | .openBlockList =>
      if place = .flow then throw .grammar
      skip
      addHolding anchor (.list (.ofList tag)) (blockItems fuel)
    | .openBlockMap =>
      if place = .flow then throw .grammar
      skip
      addHolding anchor (.map (.ofMap tag)) (blockEntries fuel)
    | _ =>
      if anchor.isNone && tag.isNone then throw .grammar
      add anchor (.scalar (.ofScalar tag true []) [])

/-- The items of an indented list, behind its beginning. -/
def blockItems : Nat → NodeReader (List Nat)
  | 0 => throw .grammar
  | fuel + 1 => do
    if ← accept .item then
      let next ← peek
      let item ←
        if next = .item || next = .closeBlock then missing else node .block fuel
      return item :: (← blockItems fuel)
    else
      expect .closeBlock
      return []

/-- The items of a list that is not indented. -/
def looseItems : Nat → NodeReader (List Nat)
  | 0 => throw .grammar
  | fuel + 1 => do
    if ← accept .item then
      let next ← peek
      let isMissing := next = .item || next = .key || next = .value || next = .closeBlock
      let item ← if isMissing then missing else node .block fuel
      return item :: (← looseItems fuel)
    else return []

/-- A key or value of a mapping in a block, behind its indicator. -/
def blockPart : Nat → NodeReader Nat
  | 0 => throw .grammar
  | fuel + 1 => do
    let next ← peek
    if next = .key || next = .value || next = .closeBlock then missing
    else node .entry fuel

/-- The entries of a mapping in a block, behind its beginning. -/
def blockEntries : Nat → NodeReader (List (Nat × Nat))
  | 0 => throw .grammar
  | fuel + 1 => do
    match ← peek with
    | .key =>
      skip
      let key ← blockPart fuel
      let value ← if ← accept .value then blockPart fuel else missing
      return (key, value) :: (← blockEntries fuel)
    | _ =>
      expect .closeBlock
      return []

/-- The part of an entry within brackets that the given tokens end. -/
def flowPart (closing : Token) (isKey : Bool) : Nat → NodeReader Nat
  | 0 => throw .grammar
  | fuel + 1 => do
    let next ← peek
    if next = .comma || next = closing || (isKey && next = .value) then missing
    else node .flow fuel

/-- The items of a list in brackets, behind its opening bracket or an item. An item with a
key is a mapping of one entry. -/
def flowItems (isFirst : Bool) : Nat → NodeReader (List Nat)
  | 0 => throw .grammar
  | fuel + 1 => do
    if ← accept .closeList then return []
    unless isFirst do expect .comma
    match ← peek with
    | .closeList =>
      skip
      return []
    | .key =>
      skip
      let key ← flowPart .closeList true fuel
      let value ← if ← accept .value then flowPart .closeList false fuel else missing
      let item ← add none (.map .map [(key, value)])
      return item :: (← flowItems false fuel)
    | _ =>
      let item ← node .flow fuel
      return item :: (← flowItems false fuel)

/-- The entries of a mapping in braces, behind its opening brace or an entry. -/
def flowEntries (isFirst : Bool) : Nat → NodeReader (List (Nat × Nat))
  | 0 => throw .grammar
  | fuel + 1 => do
    if ← accept .closeMap then return []
    unless isFirst do expect .comma
    match ← peek with
    | .closeMap =>
      skip
      return []
    | .key =>
      skip
      let key ← flowPart .closeMap true fuel
      let value ← if ← accept .value then flowPart .closeMap false fuel else missing
      return (key, value) :: (← flowEntries false fuel)
    | _ =>
      let key ← node .flow fuel
      return (key, ← missing) :: (← flowEntries false fuel)

end

/-! ## Documents -/

/-- The handles that the directives here define, besides the common ones. -/
def directives : (hasVersion : Bool) → List (Text × Text) → Nat →
    NodeReader (List (Text × Text))
  | _, handles, 0 => return handles
  | hasVersion, handles, fuel + 1 => do
    match ← peek with
    | .directive (.version major) =>
      skip
      if hasVersion || integer? major ≠ some 1 then throw .grammar
      directives true handles fuel
    | .directive (.handle handle expansion) =>
      skip
      if (handles.lookup handle).isSome then throw .grammar
      directives hasVersion ((handle, expansion) :: handles) fuel
    | .directive .other =>
      skip
      directives hasVersion handles fuel
    | _ => return handles

/-- Passes over markers of the ends of documents. -/
def skipEnds : Nat → NodeReader Unit
  | 0 => return
  | fuel + 1 => do
    if ← accept .documentEnd then skipEnds fuel

/-- The beginning of a document with a marker. -/
def documentStart (fuel : Nat) : NodeReader Unit := do
  let handles ← directives false [] fuel
  expect .documentStart
  modify fun reading => { reading with anchors := [], handles := handles ++ commonHandles }

/-- The root of a document that begins with a marker. -/
def markedDocument (fuel : Nat) : NodeReader Nat := do
  documentStart fuel
  match ← peek with
  | .directive _ | .documentStart | .documentEnd | .finish => missing
  | _ => node .block fuel

/-- The root of the first document. -/
def firstDocument (fuel : Nat) : NodeReader Nat := do
  match ← peek with
  | .directive _ | .documentStart => markedDocument fuel
  | _ => node .block fuel

/-- The root of the only document, if there is one. -/
def root? (fuel : Nat) : NodeReader (Option Nat) := do
  if (← peek) = .finish then return none
  let root ← firstDocument fuel
  skipEnds fuel
  if (← peek) = .finish then return some root
  documentStart fuel
  throw .reference

end NodeReader

/-- The only document of a text, if it has one. -/
def Document.ofText? (text : Text) : Except Fault (Option Document) := do
  let tokens := tokens text
  let start : Reading := ⟨tokens, #[], [], NodeReader.commonHandles, 0⟩
  let (root, reading) ← (NodeReader.root? (4 * tokens.length + 4)).run start
  return root.map fun root => ⟨reading.nodes, root⟩

end SchemaMigration.Yaml
