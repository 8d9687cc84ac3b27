import SchemaMigration.Table.KeyPart

/-!
# Tables

A table as its definition describes it: columns in order, indexes, primary key, foreign
keys, check constraints, and the options behind the closing parenthesis.

## Main Definitions

* `Column`, `Index`, `PrimaryKey`, `ForeignKey`, `CheckConstraint` - the parts of a table
* `Table` - a table, with the text it was read from
* `Index.clause` and its likes - the part as a clause of a statement

## Design Notes

Key parts keep their text as written, with length and sort order: two keys are equal when
they are written alike. `columnName?` gives the column behind a part where it is needed.
-/

namespace SchemaMigration

open Text

/-- A column, what it is defined as, and how many columns stand in front of it. -/
structure Column where
  name : Text
  definition : Text
  position : Nat
  deriving DecidableEq

/-- Whether a text has the word `AUTO_INCREMENT`. -/
def mentionsAutoIncrement (text : Text) : Bool :=
  occurs (fun previous rest =>
    startsWord previous && (wholeKeyword? "AUTO_INCREMENT" rest).isSome) text

/-- Whether a column numbers its rows by itself. -/
def Column.isAutoIncrement (column : Column) : Bool := mentionsAutoIncrement column.definition

/-- The kinds of indexes. -/
inductive IndexKind
  | plain
  | unique
  | fulltext
  | spatial
  deriving DecidableEq

/-- The keywords that introduce an index of a kind. -/
def IndexKind.keyword : IndexKind → Text
  | plain => "INDEX"
  | unique => "UNIQUE"
  | fulltext => "FULLTEXT INDEX"
  | spatial => "SPATIAL INDEX"

/-- A named index over key parts. -/
structure Index where
  name : Text
  kind : IndexKind
  parts : List Text
  options : Text
  deriving DecidableEq

namespace Index

/-- The column of the first key part, if there is one and it names a column. -/
def leadingColumn (index : Index) : Option Text := index.parts.head?.bind columnName?

/-- Kind, parts and options, as a comment on the index has them. -/
def describe (index : Index) : Text :=
  index.kind.keyword ++ " " ++ partsText index.parts ++ spaced index.options

/-- The index as it stands in a statement that adds it. -/
def clause (index : Index) : Text :=
  index.kind.keyword ++ " " ++ index.name ++ " " ++ partsText index.parts ++ spaced index.options

end Index

/-- A primary key over key parts. -/
structure PrimaryKey where
  parts : List Text
  options : Text
  deriving DecidableEq

namespace PrimaryKey

/-- The column of the first key part, if there is one and it names a column. -/
def leadingColumn (key : PrimaryKey) : Option Text := key.parts.head?.bind columnName?

/-- Parts and options, as a comment or a clause has them. -/
def describe (key : PrimaryKey) : Text := partsText key.parts ++ spaced key.options

end PrimaryKey

/-- A named reference from columns of a table to columns of another. -/
structure ForeignKey where
  name : Text
  parts : List Text
  refTable : Text
  refParts : List Text
  actions : Text
  deriving DecidableEq

namespace ForeignKey

/-- Columns, target and actions, as a comment or a clause has them. -/
def describe (key : ForeignKey) : Text :=
  partsText key.parts ++ " REFERENCES " ++ key.refTable ++ " " ++ partsText key.refParts ++
    spaced key.actions

/-- The constraint as it stands in a statement that adds it. -/
def clause (key : ForeignKey) : Text :=
  "CONSTRAINT " ++ key.name ++ " FOREIGN KEY " ++ key.describe

end ForeignKey

/-- A named condition on the rows of a table. -/
structure CheckConstraint where
  name : Text
  expression : Text
  options : Text
  deriving DecidableEq

/-- The condition as a comment or a clause has it. -/
def CheckConstraint.describe (check : CheckConstraint) : Text :=
  "CHECK (" ++ check.expression ++ ")" ++ spaced check.options

/-- A table as its definition describes it. -/
structure Table where
  name : Text
  columns : List Column
  indexes : List Index
  primaryKey : Option PrimaryKey
  foreignKeys : List ForeignKey
  checks : List CheckConstraint
  /-- The text behind the closing parenthesis, without the final semicolon. -/
  options : Text
  /-- The text of the whole definition. -/
  definition : Text
  deriving DecidableEq

namespace Table

/-- The names of the columns, in order. -/
def columnNames (table : Table) : List Text := table.columns.map (·.name)

/-- The column of a name. -/
def column? (table : Table) (name : Text) : Option Column :=
  table.columns.find? (·.name == name)

/-- The index of a name. -/
def index? (table : Table) (name : Text) : Option Index := table.indexes.find? (·.name == name)

/-- The foreign key of a name. -/
def foreignKey? (table : Table) (name : Text) : Option ForeignKey :=
  table.foreignKeys.find? (·.name == name)

/-- The check constraint of a name. -/
def check? (table : Table) (name : Text) : Option CheckConstraint :=
  table.checks.find? (·.name == name)

/-- The names of the columns that number their rows. -/
def autoIncrementColumns (table : Table) : List Text :=
  (table.columns.filter (·.isAutoIncrement)).map (·.name)

/-- The tables that foreign keys refer to, each once, in order of first reference. -/
def referencedTables (table : Table) : List Text :=
  table.foreignKeys.foldl (fun seen key =>
    if key.refTable ∈ seen then seen else seen ++ [key.refTable]) []

end Table

end SchemaMigration
