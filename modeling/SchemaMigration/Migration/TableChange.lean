import SchemaMigration.Migration.Statement
import SchemaMigration.Table.Basic

/-!
# Changes of a table

What a migration does to a table that both schemas have is a list of changes. A change is
data: what it does can be told without its SQL text, and the text follows from it.

## Main Definitions

* `Placement`, `InlineKey` - where a new column goes, and the key it arrives with
* `TableChange` - one change of a table
* `TableChange.phase`, `TableChange.clause` - when it runs, and as what
* `TableStep` - a change with what a report says about it
-/

namespace SchemaMigration

open Text

/-- Where a new column goes. -/
inductive Placement
  | first
  | last
  | after (column : Text)
  deriving DecidableEq

/-- A placement behind a column definition. -/
def Placement.clause : Placement → Text
  | first => " FIRST"
  | last => []
  | after column => " AFTER " ++ column

/-- The key that a new column arrives with. -/
inductive InlineKey
  | none
  /-- The column alone becomes the primary key. -/
  | primaryKey
  /-- The column alone gets a unique index of its name. -/
  | uniqueKey
  /-- The statement also adds a primary key. -/
  | andPrimaryKey (key : PrimaryKey)
  /-- The statement also adds an index. -/
  | andIndex (index : Index)
  deriving DecidableEq

namespace InlineKey

/-- The words between the definition of a column and its placement. -/
def words : InlineKey → Text
  | primaryKey => " PRIMARY KEY"
  | uniqueKey => " UNIQUE KEY"
  | _ => []

/-- The clause behind the placement of a column. -/
def trailer : InlineKey → Text
  | andPrimaryKey key => ", ADD PRIMARY KEY " ++ key.describe
  | andIndex index => ", ADD " ++ index.clause
  | _ => []

end InlineKey

/-- One change of a table. -/
inductive TableChange
  | dropForeignKey (name : Text)
  | dropCheck (name : Text)
  /-- Sets the options; the comment is emptied first if the new options set none. -/
  | changeOptions (clearsComment : Bool) (options : Text)
  | removePartitioning
  | setPartitioning (clause : Text)
  /-- Adds a guard index; one without a name is named by the server after its column. -/
  | addGuard (name : Option Text) (columns : List Text)
  | dropIndex (name : Text)
  | dropPrimaryKey
  | changeColumn (name definition : Text)
  | addColumn (name definition : Text) (key : InlineKey) (place : Placement)
  | addPrimaryKey (key : PrimaryKey)
  | addIndex (index : Index)
  | dropColumn (name : Text)
  | addForeignKey (key : ForeignKey)
  | addCheck (check : CheckConstraint)
  | dropGuard (name : Text)
  deriving DecidableEq

namespace TableChange

/-- When a change runs. -/
def phase : TableChange → Phase
  | dropForeignKey _ | dropCheck _ => .dropForeignKey
  | changeOptions _ _ => .changeOptions
  | removePartitioning => .removePartitioning
  | setPartitioning _ => .partitionTable
  | addGuard _ _ => .guardIndex
  | dropIndex _ => .dropIndex
  | dropPrimaryKey => .dropPrimaryKey
  | changeColumn _ _ => .changeColumn
  | addColumn _ _ _ _ => .addColumn
  | addPrimaryKey _ => .addPrimaryKey
  | addIndex _ => .addIndex
  | dropColumn _ => .dropColumn
  | addForeignKey _ | addCheck _ => .addForeignKey
  | dropGuard _ => .dropGuardIndex

/-- The change behind `ALTER TABLE` and the name of the table. -/
def clause : TableChange → Text
  | dropForeignKey name => "DROP FOREIGN KEY " ++ name
  | dropCheck name => "DROP CHECK " ++ name
  | changeOptions true options => trimRight ("COMMENT='' " ++ options)
  | changeOptions false options => options
  | removePartitioning => "REMOVE PARTITIONING"
  | setPartitioning clause => clause
  | addGuard none columns => "ADD INDEX (" ++ columns.headD [] ++ ")"
  | addGuard (some name) columns => "ADD INDEX " ++ name ++ " " ++ partsText columns
  | dropIndex name => "DROP INDEX " ++ name
  | dropPrimaryKey => "DROP PRIMARY KEY"
  | changeColumn name definition => "CHANGE COLUMN " ++ name ++ " " ++ name ++ " " ++ definition
  | addColumn name definition key place =>
    "ADD COLUMN " ++ name ++ " " ++ definition ++ key.words ++ place.clause ++ key.trailer
  | addPrimaryKey key => "ADD PRIMARY KEY " ++ key.describe
  | addIndex index => "ADD " ++ index.clause
  | dropColumn name => "DROP COLUMN " ++ name
  | addForeignKey key => "ADD " ++ key.clause
  | addCheck check => "ADD CONSTRAINT " ++ check.name ++ " " ++ check.describe
  | dropGuard name => "DROP INDEX " ++ name

end TableChange

/-- A change of a table with what a report says about it. -/
structure TableStep where
  change : TableChange
  action : MigrationAction
  /-- The old definition, or nothing. -/
  comment : Text
  deriving DecidableEq

/-- The statement of a step on the table of the given name. -/
def TableStep.statement (step : TableStep) (table : Text) : Statement where
  phase := step.change.phase
  name := table
  action := step.action.word
  sql := "ALTER TABLE " ++ table ++ " " ++ step.change.clause ++ ";"
  comment := step.comment
  isSpaced := false
  referencedTables := []

end SchemaMigration
