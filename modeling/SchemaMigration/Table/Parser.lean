import SchemaMigration.Table.Options
import SchemaMigration.Table.Line
import SchemaMigration.Journal

/-!
# Reading a table

A table definition is read line by line: its name from the first line, columns and keys
from the lines up to the closing parenthesis, options from there to the first line that
ends in a semicolon. Anything behind that is passed over.

## Main Definitions

* `TableError` - why a text is no table definition, with its message
* `Table.Draft` - the columns and keys of the lines read so far
* `Table.parse` - the table that a text defines
* `Table.notes` - what reading a table reports

## Design Notes

The draft keeps the parts in the order of their lines and refuses a second part of one
name, so names are distinct in every table. A key without a name gets one that no earlier
key of its sort has; since only as many names are taken as there are keys, the search for
a free number is bounded by their count.
-/

namespace SchemaMigration

open Text

/-- The parts of a table that have names of their own. -/
inductive NamedPart
  | column
  | index
  | foreignKey
  | check
  deriving DecidableEq

/-- The parts of a table as messages call them. -/
def NamedPart.word : NamedPart → Text
  | column => "field"
  | index => "index"
  | foreignKey => "foreign key"
  | check => "check constraint"

/-- The key that a message is about. -/
inductive KeyOwner
  | index (name : Text)
  | primaryKey
  | foreignKey (name : Text)
  deriving DecidableEq

/-- A key as messages call it. -/
def KeyOwner.word : KeyOwner → Text
  | index name => "index '" ++ name ++ "'"
  | primaryKey => "primary key"
  | foreignKey name => "foreign key '" ++ name ++ "'"

/-- Why a text is no table definition. -/
inductive TableError
  | empty
  | unnamed (line : Text)
  | unreadable (table line : Text)
  | unclosed (table : Text)
  | repeated (part : NamedPart) (name table : Text)
  | secondPrimaryKey (table partsText : Text) (first : PrimaryKey)
  | unknownColumn (owner : KeyOwner) (table column : Text)
  deriving DecidableEq

namespace TableError

/-- What went wrong, in words. -/
def message : TableError → Text
  | empty => "empty table definition"
  | unnamed _ => "couldn't figure out table name"
  | unreadable table _ => "unparsable line in definition for table '" ++ table ++ "'"
  | unclosed table => "definition for table '" ++ table ++ "' has no closing parenthesis"
  | repeated part name table =>
    part.word ++ " '" ++ name ++ "' duplicated in table '" ++ table ++ "'"
  | secondPrimaryKey table parts first =>
    "two primary keys in table '" ++ table ++ "': (" ++ parts ++ "), " ++ first.describe
  | unknownColumn owner table column =>
    owner.word ++ " in table '" ++ table ++ "' refers to unknown column '" ++ column ++ "'"

/-- The table that an error is about, if its name was found. -/
def entity : TableError → Option Text
  | empty => none
  | unnamed _ => none
  | unreadable table _ => some table
  | unclosed table => some table
  | repeated _ _ table => some table
  | secondPrimaryKey table _ _ => some table
  | unknownColumn _ table _ => some table

/-- The text that could not be read. -/
def text : TableError → Option Text
  | unnamed line => some line
  | unreadable _ line => some line
  | _ => none

/-- Whether something was defined twice. -/
def isDuplicate : TableError → Bool
  | repeated _ _ _ => true
  | secondPrimaryKey _ _ _ => true
  | _ => false

end TableError

/-- The stem with a number behind it. -/
def numbered (stem : Text) (n : Nat) : Text := stem ++ "_" ++ ofNat n

/-- The stem with the first number from `n` on such that the name is not taken; `bound` is
how many numbers may be passed over. -/
def firstFree (stem : Text) (taken : List Text) : (bound n : Nat) → Text
  | 0, n => numbered stem n
  | bound + 1, n =>
    if numbered stem n ∈ taken then firstFree stem taken bound (n + 1) else numbered stem n

namespace Table

/-- The columns and keys of the lines of a table body read so far. -/
structure Draft where
  columns : List Column
  indexes : List Index
  primaryKey : Option PrimaryKey
  foreignKeys : List ForeignKey
  checks : List CheckConstraint
  deriving DecidableEq

namespace Draft

/-- The draft in front of the first line. -/
def empty : Draft := ⟨[], [], none, [], []⟩

/-- The name of an index line without one: its first column, or a word for a functional
index, made unique by a number from 2 on. -/
def indexName (draft : Draft) (parts : List Text) : Text :=
  let base := (parts.head?.bind columnName?).getD "functional_index".toList
  let taken := draft.indexes.map (·.name)
  if base ∈ taken then firstFree base taken taken.length 2 else base

/-- The name of a foreign key line without one. -/
def foreignKeyName (draft : Draft) (table : Text) : Text :=
  let taken := draft.foreignKeys.map (·.name)
  firstFree (table ++ "_ibfk") taken taken.length (taken.length + 1)

/-- The name of a check line without one. -/
def checkName (draft : Draft) (table : Text) : Text :=
  let taken := draft.checks.map (·.name)
  firstFree (table ++ "_chk") taken taken.length (taken.length + 1)

/-- The given name if it is not taken yet, or the one to choose if none is given. -/
def chooseName (part : NamedPart) (table : Text) (taken : List Text) (fallback : Text) :
    Option Text → Except TableError Text
  | none => .ok fallback
  | some name => if name ∈ taken then .error (.repeated part name table) else .ok name

/-- The draft with one more line; a terminator or an unrecognised line adds nothing. -/
def add (table : Text) (draft : Draft) : TableLine → Except TableError Draft
  | .column name definition => do
    let name ← chooseName .column table (draft.columns.map (·.name)) name (some name)
    let column := { name, definition, position := draft.columns.length }
    return { draft with columns := draft.columns ++ [column] }
  | .primaryKey partsText options =>
    match draft.primaryKey with
    | some first => .error (.secondPrimaryKey table partsText first)
    | none => .ok { draft with primaryKey := some { parts := listItems partsText, options } }
  | .index name kind partsText options => do
    let parts := listItems partsText
    let name ← chooseName .index table (draft.indexes.map (·.name)) (draft.indexName parts) name
    return { draft with indexes := draft.indexes ++ [{ name, kind, parts, options }] }
  | .foreignKey name partsText refTable refPartsText actions => do
    let name ← chooseName .foreignKey table (draft.foreignKeys.map (·.name))
      (draft.foreignKeyName table) name
    let parts := listItems partsText
    let refParts := listItems refPartsText
    let key := { name, parts, refTable, refParts, actions }
    return { draft with foreignKeys := draft.foreignKeys ++ [key] }
  | .check name expression options => do
    let name ← chooseName .check table (draft.checks.map (·.name)) (draft.checkName table) name
    return { draft with checks := draft.checks ++ [{ name, expression, options }] }
  | .terminator _ => .ok draft
  | .unrecognised _ => .ok draft

/-- The key parts of a draft with the keys they belong to. -/
def keyParts (draft : Draft) : List (KeyOwner × Text) :=
  draft.indexes.flatMap (fun index => index.parts.map fun part => (.index index.name, part)) ++
  draft.primaryKey.toList.flatMap (fun key => key.parts.map fun part => (.primaryKey, part)) ++
  draft.foreignKeys.flatMap (fun key => key.parts.map fun part => (.foreignKey key.name, part))

/-- What a key part names that is no column of the draft; an expression in parentheses may
be anything. -/
def unknownColumn? (draft : Draft) (part : Text) : Option Text :=
  if startsWith "(" part then none
  else match columnName? part with
    | none => some part
    | some name => if name ∈ draft.columns.map (·.name) then none else some name

/-- Refuses a draft in which a key part names no column. -/
def checkColumns (table : Text) (draft : Draft) : Except TableError Unit :=
  match draft.keyParts.findSome? fun (owner, part) =>
      (draft.unknownColumn? part).map fun column => (owner, column) with
  | some (owner, column) => .error (.unknownColumn owner table column)
  | none => .ok ()

end Draft

/-- The name of the table that a first line opens: a `CREATE TABLE` that ends with the
opening parenthesis. -/
def nameOfFirstLine? (line : Text) : Option Text := do
  let rest ← blanks? (← keyword? "CREATE" (trimLeft line))
  let rest := ((keyword? "TEMPORARY" rest).bind blanks?).getD rest
  let rest ← blanks? (← keyword? "TABLE" rest)
  let rest := trimRight (((keywords? ["IF", "NOT", "EXISTS"] rest).bind blanks?).getD rest)
  if rest.getLast? = some '(' then
    let name := trimRight rest.dropLast
    if name.isEmpty || name.any isBlank then none else some name
  else none

/-- The draft of the lines up to the closing parenthesis, and the option lines: what stands
behind the parenthesis, and the lines behind that one. -/
def readBody (table : Text) (draft : Draft) : List Text → Except TableError (Draft × List Text)
  | [] => .error (.unclosed table)
  | line :: rest =>
    match TableLine.ofText (dropTrailing ',' (trim line)) with
    | .terminator options => .ok (draft, options :: rest.map trim)
    | .unrecognised text => .error (.unreadable table text)
    | found => do readBody table (← draft.add table found) rest

/-- The option lines up to the first that ends in a semicolon, and the lines behind it. -/
def splitTrailer : List Text → List Text × List Text
  | [] => ([], [])
  | line :: rest =>
    if endsWith ";" line then ([line], rest)
    else
      let (options, garbage) := splitTrailer rest
      (line :: options, garbage)

/-- The options as one text without the final semicolon. -/
def optionsText (options : List Text) : Text :=
  let text := trim (join " " (options.filter (! ·.isEmpty)))
  if endsWith ";" text then trimRight text.dropLast else text

/-- The lines of a definition that are not blank. -/
def definitionLines (text : Text) : List Text :=
  (lines (trim text)).filter (! isBlankText ·)

/-- The table that a text defines. -/
def parse (text : Text) : Except TableError Table :=
  match definitionLines text with
  | [] => .error .empty
  | first :: rest =>
    match nameOfFirstLine? first with
    | none => .error (.unnamed (trim first))
    | some name => do
      let (draft, trailer) ← readBody name .empty rest
      draft.checkColumns name
      return {
        name
        columns := draft.columns
        indexes := draft.indexes
        primaryKey := draft.primaryKey
        foreignKeys := draft.foreignKeys
        checks := draft.checks
        options := optionsText (splitTrailer trailer).1
        definition := trim text }

/-- What reading the option lines of a table reports: a missing semicolon, and lines behind
the definition. -/
def trailerNotes (name : Text) (trailer : List Text) : Journal :=
  let (options, garbage) := splitTrailer trailer
  (if options.getLast?.any (endsWith ";" ·) then []
    else [.warning ("table '" ++ name ++ "' didn't have terminator")]) ++
  (if garbage.isEmpty then []
    else [.warning ("table '" ++ name ++ "' had trailing garbage:\n" ++ unlines garbage)])

/-- What reading a table reports. -/
def notes (text : Text) : Journal :=
  match definitionLines text with
  | [] => []
  | first :: rest =>
    match nameOfFirstLine? first with
    | none => []
    | some name =>
      .debug ("parsing table " ++ name) ::
        match readBody name .empty rest with
        | .error _ => []
        | .ok (_, trailer) => trailerNotes name trailer

end Table

end SchemaMigration
