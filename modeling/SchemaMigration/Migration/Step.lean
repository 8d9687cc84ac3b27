import SchemaMigration.Migration.TableChange
import SchemaMigration.Schema.Basic
import SchemaMigration.Table.Creation

/-!
# Steps of a migration

A step creates, changes or drops one object of a schema. Like the changes of a table, steps
are data, and their statements follow from them.

## Main Definitions

* `Step` - one step of a migration
* `Step.phase`, `Step.statement` - when it runs, and as what
-/

namespace SchemaMigration

open Text

/-- One step of a migration. -/
inductive Step
  | alterTable (table : Text) (step : TableStep)
  | dropTable (name : Text)
  | createTable (table : Table)
  | dropRoutine (routine : Routine)
  | createRoutine (routine : Routine)
  | replaceRoutine (old new : Routine)
  | dropView (name : Text)
  | createView (view : View)
  | alterView (view : View)
  deriving DecidableEq

namespace Step

/-- When a step runs. -/
def phase : Step → Phase
  | alterTable _ step => step.change.phase
  | dropTable _ => .dropTable
  | createTable _ => .createTable
  | dropRoutine _ => .dropRoutine
  | createRoutine _ | replaceRoutine _ _ => .createRoutine
  | dropView _ => .dropView
  | createView _ | alterView _ => .createView

/-- A statement about the object of the given name, without a comment. -/
def simpleStatement (phase : Phase) (name : Text) (action : MigrationAction) (sql : Text)
    (isSpaced : Bool) (referencedTables : List Text) : Statement :=
  { phase, name, action := action.word, sql, comment := [], isSpaced, referencedTables }

/-- The statement of a step. -/
def statement : Step → Statement
  | alterTable table step => step.statement table
  | dropTable name =>
    simpleStatement .dropTable name .dropTable ("DROP TABLE " ++ name ++ ";") true []
  | createTable table =>
    simpleStatement .createTable table.name .addTable table.createStatement true
      table.referencedTables
  | dropRoutine routine =>
    simpleStatement .dropRoutine routine.name .dropRoutine routine.dropStatement false []
  | createRoutine routine =>
    simpleStatement .createRoutine routine.name .addRoutine routine.createStatement false []
  | replaceRoutine old new =>
    simpleStatement .createRoutine new.name .changeRoutine
      (old.dropStatement ++ "\n" ++ new.createStatement) false []
  | dropView name =>
    simpleStatement .dropView name .dropView ("DROP VIEW " ++ name ++ ";") true []
  | createView view =>
    simpleStatement .createView view.name .addView view.createStatement false []
  | alterView view =>
    simpleStatement .createView view.name .changeView view.alterStatement false []

end Step

end SchemaMigration
