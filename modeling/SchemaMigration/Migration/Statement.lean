import SchemaMigration.Migration.Phase

/-!
# Statements of a migration

A statement is complete SQL text together with what a report says about it: the object it
is about, the action it takes, and the old definition as a comment.

## Main Definitions

* `MigrationAction` - what a statement does, as headers name it
* `Statement` - a statement as a report prints it
* `Statement.arrange` - statements in order of execution
-/

namespace SchemaMigration

/-- What a statement does, as headers name it. -/
inductive MigrationAction
  | dropTable
  | addTable
  | refTable
  | changeColumn
  | addColumn
  | dropColumn
  | changeIndex
  | addIndex
  | dropIndex
  | addTemporaryIndex
  | dropTemporaryIndex
  | addPrimaryKey
  | dropPrimaryKey
  | changePrimaryKey
  | addForeignKey
  | dropForeignKey
  | changeForeignKey
  | addCheck
  | dropCheck
  | changeOptions
  | dropPartitioning
  | changePartitions
  | addView
  | dropView
  | changeView
  | addRoutine
  | dropRoutine
  | changeRoutine
  deriving DecidableEq

/-- The word for an action in headers. -/
def MigrationAction.word : MigrationAction → Text
  | dropTable => "drop_table"
  | addTable => "add_table"
  | refTable => "ref_table"
  | changeColumn => "change_column"
  | addColumn => "add_column"
  | dropColumn => "drop_column"
  | changeIndex => "change_index"
  | addIndex => "add_index"
  | dropIndex => "drop_index"
  | addTemporaryIndex => "add_temporary_index"
  | dropTemporaryIndex => "drop_temporary_index"
  | addPrimaryKey => "add_pk"
  | dropPrimaryKey => "drop_pk"
  | changePrimaryKey => "change_pk"
  | addForeignKey => "add_fk"
  | dropForeignKey => "drop_fk"
  | changeForeignKey => "change_fk"
  | addCheck => "add_check"
  | dropCheck => "drop_check"
  | changeOptions => "change_options"
  | dropPartitioning => "drop_partitioning"
  | changePartitions => "change_partitions"
  | addView => "add_view"
  | dropView => "drop_view"
  | changeView => "change_view"
  | addRoutine => "add_routine"
  | dropRoutine => "drop_routine"
  | changeRoutine => "change_routine"

/-- A statement as a report prints it. -/
structure Statement where
  phase : Phase
  /-- The object that the statement is about. -/
  name : Text
  action : Text
  /-- The statement with its terminator. -/
  sql : Text
  /-- The old definition, or nothing. -/
  comment : Text
  /-- Whether a blank line follows the statement. -/
  isSpaced : Bool
  referencedTables : List Text
  deriving DecidableEq

/-- Statements in order of execution. -/
def Statement.arrange (statements : List Statement) : List Statement :=
  Phase.arrange Statement.phase statements

end SchemaMigration
