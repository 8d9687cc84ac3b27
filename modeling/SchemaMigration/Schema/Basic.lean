import SchemaMigration.Table.Basic
import SchemaMigration.View
import SchemaMigration.Routine.Basic

/-!
# Schemas

A schema holds tables, views and routines, each in the order in which they were defined.

## Main Definitions

* `Schema` - the objects of a schema, and what it was read from
* `Schema.table?`, `Schema.view?`, `Schema.routine?` - an object by its name
-/

namespace SchemaMigration

/-- The objects of a schema in order of definition. -/
structure Schema where
  tables : List Table
  views : List View
  routines : List Routine
  /-- What the schema was read from, as reports name it. -/
  source : Text
  deriving DecidableEq

namespace Schema

/-- The schema without objects. -/
def empty (source : Text) : Schema := ⟨[], [], [], source⟩

/-- The table of a name. -/
def table? (schema : Schema) (name : Text) : Option Table :=
  schema.tables.find? (·.name == name)

/-- The view of a name. -/
def view? (schema : Schema) (name : Text) : Option View :=
  schema.views.find? (·.name == name)

/-- The routine of a kind and name. -/
def routine? (schema : Schema) (key : RoutineKind × Text) : Option Routine :=
  schema.routines.find? (·.key == key)

/-- Whether a schema has no objects. -/
def isEmpty (schema : Schema) : Bool :=
  schema.tables.isEmpty && schema.views.isEmpty && schema.routines.isEmpty

/-- The schema without the table of a name. -/
def eraseTable (schema : Schema) (name : Text) : Schema :=
  { schema with tables := schema.tables.filter (·.name != name) }

/-- The schema without the view of a name. -/
def eraseView (schema : Schema) (name : Text) : Schema :=
  { schema with views := schema.views.filter (·.name != name) }

/-- The schema without the routine of a kind and name. -/
def eraseRoutine (schema : Schema) (key : RoutineKind × Text) : Schema :=
  { schema with routines := schema.routines.filter (·.key != key) }

end Schema

end SchemaMigration
