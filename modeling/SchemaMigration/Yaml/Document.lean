import SchemaMigration.Config.Value
import SchemaMigration.Yaml.Node

/-!
# Values of YAML documents

The value of a document is that of its root. A mapping takes over the entries of the
mappings that are merged into it; its own entries count more than those.

## Main Definitions

* `Building` - the nodes of a document and the values made of them so far
* `Builder.valueOf` - the value of a node
* `Builder.fill` - what a collection holds
* `Configuration.ofYaml` - the value of the only document of a text

## Design Notes

A collection is empty when it is made and gets its contents in its turn, so that it may be
part of itself. The turns come in the order in which the collections were met: of two nodes
without a value, the one that is nested less deeply counts, and after that the first one.
-/

namespace SchemaMigration

open Text

namespace Yaml

/-- The nodes of a document and the values made of them so far. -/
structure Building where
  nodes : Array Node
  store : Store
  /-- The values of the nodes that have one. -/
  made : List (Nat × Value)
  /-- The nodes whose collections are still to be filled, with the cells of these. -/
  pending : List (Nat × Nat)

/-- A step of making values, which may fail. -/
abbrev Builder := StateT Building (Except Fault)

namespace Builder

/-- The node of a number. -/
def nodeOf (number : Nat) : Builder Node := do
  match (← get).nodes[number]? with
  | some node => return node
  | none => throw .node

/-- Puts another node in the place of one. -/
def replaceNode (number : Nat) (node : Node) : Builder Unit :=
  modify fun building => { building with nodes := building.nodes.setIfInBounds number node }

/-- The type of the value of a node. -/
def tagOf (number : Nat) : Builder Tag := do return (← nodeOf number).tag

/-- The entries of a node that is a mapping. -/
def entriesOf (number : Nat) : Builder (List (Nat × Nat)) := do
  match ← nodeOf number with
  | .map _ entries => return entries
  | _ => throw .node

/-! ## Scalars -/

/-- The first of the nodes whose key has the given type. -/
def entryOfTag? (tag : Tag) : List (Nat × Nat) → Builder (Option Nat)
  | [] => return none
  | (key, node) :: entries => do
    if (← tagOf key) = tag then return some node else entryOfTag? tag entries

/-- The text of a scalar, or of the own value of a mapping. -/
def scalarText : (fuel : Nat) → Nat → Builder Text
  | 0, _ => throw .depth
  | fuel + 1, number => do
    match ← nodeOf number with
    | .scalar _ text => return text
    | .list _ _ => throw .node
    | .map _ entries =>
      match ← entryOfTag? .value entries with
      | some own => scalarText fuel own
      | none => throw .node

/-- The value of a scalar of a type. -/
def scalarValue (number : Nat) (tag : Tag) : Builder Value := do
  let text ← scalarText ((← get).nodes.size + 1) number
  match tag with
  | .null => return .null
  | .text => return .text text
  | .bool =>
    match truthOfWord? (lower text) with
    | some value => return .bool value
    | none => throw .noTruthValue
  | .whole => return .int (← (wholeValue text : Except Fault Int))
  | .fraction => return .fraction (← (fractionValue (number + 1) text : Except Fault Quantity))
  | .timestamp =>
    match ← nodeOf number with
    | .scalar _ _ => return .timestamp (← (timestampValue text : Except Fault Timestamp))
    | _ => throw .mappedDate
  | .octets =>
    match octetsOfBase64? text with
    | some octets => return .octets octets
    | none => throw .node
  | _ => throw .node

/-! ## Collections -/

/-- A collection that is filled later. -/
def openCollection (number : Nat) (collection : Collection) : Builder Value := do
  let building ← get
  let (value, store) := building.store.add collection
  set { building with
    store
    made := (number, value) :: building.made
    pending := building.pending ++ [(number, building.store.cells.size)] }
  return value

/-- The value of a node; a collection is still empty. -/
def valueOf (number : Nat) : Builder Value := do
  match (← get).made.lookup number with
  | some value => return value
  | none =>
    match ← tagOf number with
    | .list | .pairs => openCollection number (.list [])
    | .map => openCollection number (.map [])
    | .set => openCollection number (.set [])
    | .merge | .value | .other _ => throw .node
    | tag =>
      let value ← scalarValue number tag
      modify fun building => { building with made := (number, value) :: building.made }
      return value

/-- Splits the entries of a mapping at the first one that is merged into it. -/
def splitAtMerge? :
    List (Nat × Nat) → Builder (Option (List (Nat × Nat) × Nat × List (Nat × Nat)))
  | [] => return none
  | (key, node) :: entries => do
    if (← tagOf key) = .merge then return some ([], node, entries)
    else return (← splitAtMerge? entries).map fun (front, merged, rest) =>
      ((key, node) :: front, merged, rest)

/-- Makes the keys of own values plain texts. -/
def settleOwnValues : List (Nat × Nat) → Builder Unit
  | [] => return
  | (key, _) :: entries => do
    match ← nodeOf key with
    | .scalar .value text => replaceNode key (.scalar .text text)
    | .list .value items => replaceNode key (.list .text items)
    | .map .value entries => replaceNode key (.map .text entries)
    | _ => pure ()
    settleOwnValues entries

/-- Gives a mapping its own entries and, in front of them, those that are merged into it;
`taken` are those found so far. Every round takes out an entry. -/
def flatten : (fuel : Nat) → (number : Nat) → (taken : List (Nat × Nat)) → Builder Unit
  | 0, _, _ => throw .depth
  | fuel + 1, number, taken => do
    let entries ← entriesOf number
    match ← splitAtMerge? entries with
    | none =>
      settleOwnValues entries
      replaceNode number (.map (← tagOf number) (taken ++ entries))
    | some (front, merged, rest) =>
      replaceNode number (.map (← tagOf number) (front ++ rest))
      match ← nodeOf merged with
      | .map _ _ =>
        flatten fuel merged []
        let more ← entriesOf merged
        flatten fuel number (taken ++ more)
      | .list _ items =>
        let groups ← items.mapM fun item => do
          flattenItem fuel item
          entriesOf item
        flatten fuel number (taken ++ groups.reverse.flatten)
      | .scalar _ _ => throw .node
where
  /-- Gives an item of a list of mappings to be merged its entries. -/
  flattenItem (fuel item : Nat) : Builder Unit := do
    let _ ← entriesOf item
    flatten fuel item []

/-- The entries of a mapping with what is merged into it. -/
def values : List (Nat × Nat) → Builder (List (Value × Value))
  | [] => return []
  | (key, node) :: entries => do
    let key ← valueOf key
    unless key.isKey do throw .node
    let value ← valueOf node
    return (key, value) :: (← values entries)

/-- The number of entries of all mappings. -/
def entryCount (nodes : Array Node) : Nat :=
  nodes.foldl (fun count node => match node with
    | .map _ entries => count + entries.length
    | _ => count) 0

/-- The entries of a node that is a mapping, each key once. -/
def mappingEntries (number : Nat) : Builder (List (Value × Value)) := do
  flatten (entryCount (← get).nodes + 2) number []
  return distinctEntries (← values (← entriesOf number))

/-- The pair that a mapping of one entry stands for. -/
def pairOf (number : Nat) : Builder Value := do
  match ← entriesOf number with
  | [(key, node)] =>
    let key ← valueOf key
    let value ← valueOf node
    modifyGet fun building =>
      let (pair, store) := building.store.add (.pair key value)
      (pair, { building with store })
  | _ => throw .node

/-- What the collection of a node holds. -/
def contents (number : Nat) : Builder Collection := do
  match ← nodeOf number with
  | .list .pairs items => return .list (← items.mapM pairOf)
  | .list .list items => return .list (← items.mapM valueOf)
  | .map .map _ => return .map (← mappingEntries number)
  | .map .set _ => return .set (orderedMembers ((← mappingEntries number).map (·.1)))
  | _ => throw .node

/-- Fills the collections that are still empty. -/
def fill : (fuel : Nat) → Builder Unit
  | 0 => return
  | fuel + 1 => do
    let building ← get
    match building.pending with
    | [] => return
    | (number, cell) :: pending =>
      set { building with pending }
      let collection ← contents number
      modify fun building => { building with store := building.store.set cell collection }
      fill fuel

/-- The value of the root of a document. -/
def root (document : Document) : Builder Value := do
  let value ← valueOf document.root
  fill document.nodes.size
  return value

end Builder

/-- What a document says. -/
def Document.configuration (document : Document) : Except Fault Configuration := do
  let start : Building := ⟨document.nodes, .empty, [], []⟩
  let (root, building) ← (Builder.root document).run start
  return ⟨building.store, root⟩

end Yaml

/-- The value of the only document of a text; nothing if it has none. -/
def Configuration.ofYaml (text : Text) : Except Yaml.Fault Configuration := do
  match ← Yaml.Document.ofText? text with
  | none => return ⟨.empty, .null⟩
  | some document => document.configuration

end SchemaMigration
