import SchemaMigration.Text.Basic

/-!
# Phases of a migration

The statements of a migration run in phases, whatever the order in which they were found.

## Main Definitions

* `Phase` - the phases in order of execution
* `Phase.all` - all phases in that order
* `Phase.arrange` - things in order of phase, those of one phase as they were

## Design Notes

Foreign keys go first, so that no later change of an index or column trips over them. Guard
indexes come before any index or primary key that they stand in for is dropped, and go only
when every other change of the table is done.
-/

namespace SchemaMigration

/-- The phases of a migration in order of execution. -/
inductive Phase
  | dropForeignKey
  | dropRoutine
  | dropView
  | dropTable
  | removePartitioning
  | changeOptions
  | createTable
  | guardIndex
  | dropIndex
  | dropPrimaryKey
  | changeColumn
  | addColumn
  | addPrimaryKey
  | addIndex
  | dropColumn
  | addForeignKey
  | createView
  | createRoutine
  | dropGuardIndex
  | partitionTable
  deriving DecidableEq

namespace Phase

/-- All phases in order of execution. -/
def all : List Phase :=
  [dropForeignKey, dropRoutine, dropView, dropTable, removePartitioning, changeOptions,
   createTable, guardIndex, dropIndex, dropPrimaryKey, changeColumn, addColumn, addPrimaryKey,
   addIndex, dropColumn, addForeignKey, createView, createRoutine, dropGuardIndex,
   partitionTable]

/-- The name of a phase. -/
def name : Phase → Text
  | dropForeignKey => "DROP_FOREIGN_KEY"
  | dropRoutine => "DROP_ROUTINE"
  | dropView => "DROP_VIEW"
  | dropTable => "DROP_TABLE"
  | removePartitioning => "REMOVE_PARTITIONING"
  | changeOptions => "CHANGE_OPTIONS"
  | createTable => "CREATE_TABLE"
  | guardIndex => "GUARD_INDEX"
  | dropIndex => "DROP_INDEX"
  | dropPrimaryKey => "DROP_PRIMARY_KEY"
  | changeColumn => "CHANGE_COLUMN"
  | addColumn => "ADD_COLUMN"
  | addPrimaryKey => "ADD_PRIMARY_KEY"
  | addIndex => "ADD_INDEX"
  | dropColumn => "DROP_COLUMN"
  | addForeignKey => "ADD_FOREIGN_KEY"
  | createView => "CREATE_VIEW"
  | createRoutine => "CREATE_ROUTINE"
  | dropGuardIndex => "DROP_GUARD_INDEX"
  | partitionTable => "PARTITION_TABLE"

/-- The phase of a name. -/
def ofName? (name : Text) : Option Phase := all.find? (·.name == name)

/-- The items in order of their phases; those of one phase keep their order. -/
def arrange {α : Type} (phase : α → Phase) (items : List α) : List α :=
  all.flatMap fun p => items.filter fun item => phase item = p

end Phase

end SchemaMigration
