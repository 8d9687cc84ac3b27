import SchemaMigration.Schema.Basic
import SchemaMigration.Dump.Definition
import SchemaMigration.Table.Parser
import SchemaMigration.Routine.Parser

/-!
# Reading a schema

A dump is read definition by definition, as if it were run: a `DROP` discards an earlier
definition of its name, so the placeholders that dumps contain give way to what follows
them. A view also replaces a table of its name.

## Main Definitions

* `SchemaError` - why a dump is no schema
* `Schema.step` - the schema behind one more definition
* `Schema.parse` - the schema that a dump leaves behind
* `Schema.notes` - what reading a dump reports
-/

namespace SchemaMigration

open Text

/-- Why a dump is no schema. -/
inductive SchemaError
  | unrecognisable (text : Text)
  | table (error : TableError)
  | view (error : ViewError)
  | routine (error : RoutineError)
  | repeatedTable (name : Text)
  | repeatedView (name : Text)
  | repeatedRoutine (kind : RoutineKind) (name : Text)
  deriving DecidableEq

namespace SchemaError

/-- What went wrong, in words, without the text that could not be read. -/
def summary : SchemaError → Text
  | unrecognisable _ =>
    "dump contains no recognizable table, view or routine definitions"
  | table error => error.message
  | view error => error.message
  | routine error => error.message
  | repeatedTable name => "table '" ++ name ++ "' defined twice"
  | repeatedView name => "view '" ++ name ++ "' defined twice"
  | repeatedRoutine kind name => kind.label ++ " '" ++ name ++ "' defined twice"

/-- The object that an error is about, if its name was found. -/
def entity : SchemaError → Option Text
  | unrecognisable _ => none
  | table error => error.entity
  | view _ => none
  | routine error => error.entity
  | repeatedTable name => some name
  | repeatedView name => some name
  | repeatedRoutine _ name => some name

/-- The text that could not be read. -/
def text : SchemaError → Option Text
  | unrecognisable text => some text
  | table error => error.text
  | view error => some error.text
  | routine error => error.text
  | _ => none

/-- Whether something was defined twice. -/
def isDuplicate : SchemaError → Bool
  | table error => error.isDuplicate
  | repeatedTable _ => true
  | repeatedView _ => true
  | repeatedRoutine _ _ => true
  | _ => false

/-- What went wrong, with the text that could not be read on the lines behind it. -/
def message (error : SchemaError) : Text :=
  match error.text with
  | some (c :: text) => error.summary ++ ":\n" ++ (c :: text)
  | _ => error.summary

end SchemaError

namespace Schema

/-- How much of an unrecognisable dump an error shows. -/
def shownLength : Nat := 500

/-- The schema behind a `DROP` of the given kind and name. -/
def dropObject (schema : Schema) (kind : ObjectKind) (name : Text) : Schema :=
  match kind with
  | .table => schema.eraseTable name
  | .view => schema.eraseView name
  | .routine kind => schema.eraseRoutine (kind, name)

/-- Whether a schema has an object of the given kind and name. -/
def hasObject (schema : Schema) (kind : ObjectKind) (name : Text) : Bool :=
  match kind with
  | .table => (schema.table? name).isSome
  | .view => (schema.view? name).isSome
  | .routine kind => (schema.routine? (kind, name)).isSome

/-- The schema with one more table. -/
def addTable (schema : Schema) (table : Table) : Except SchemaError Schema :=
  if (schema.table? table.name).isSome || (schema.view? table.name).isSome then
    .error (.repeatedTable table.name)
  else .ok { schema with tables := schema.tables ++ [table] }

/-- The schema with one more view, in place of a table of its name. -/
def addView (schema : Schema) (view : View) : Except SchemaError Schema :=
  if (schema.view? view.name).isSome then .error (.repeatedView view.name)
  else .ok { schema.eraseTable view.name with views := schema.views ++ [view] }

/-- The schema with one more routine. -/
def addRoutine (schema : Schema) (routine : Routine) : Except SchemaError Schema :=
  if (schema.routine? routine.key).isSome then
    .error (.repeatedRoutine routine.kind routine.name)
  else .ok { schema with routines := schema.routines ++ [routine] }

/-- The schema behind one more definition. An `ALTER` changes nothing. -/
def step (schema : Schema) (definition : Definition) : Except SchemaError Schema :=
  match definition.subject with
  | none => .error (.unrecognisable (definition.text.take shownLength))
  | some (.drop, kind) =>
    match definition.droppedName with
    | none => .ok schema
    | some name => .ok (schema.dropObject kind name)
  | some (.alter, _) => .ok schema
  | some (.create, .table) =>
    match Table.parse definition.text with
    | .error error => .error (.table error)
    | .ok table => schema.addTable table
  | some (.create, .view) =>
    match View.parse definition.text with
    | .error error => .error (.view error)
    | .ok view => schema.addView view
  | some (.create, .routine _) =>
    match Routine.parse definition.text with
    | .error error => .error (.routine error)
    | .ok routine => schema.addRoutine routine

/-- The schema behind all the given definitions, or the error of the first that fails. -/
def steps (schema : Schema) : List Definition → Except SchemaError Schema
  | [] => .ok schema
  | definition :: rest => do steps (← schema.step definition) rest

/-- The schema that a dump leaves behind. -/
def parse (keepQuotes : Bool) (source raw : Text) : Except SchemaError Schema :=
  (empty source).steps (Dump.definitions keepQuotes raw)

/-- What one more definition reports. -/
def stepNotes (schema : Schema) (definition : Definition) : Journal :=
  match definition.subject with
  | none => []
  | some (.drop, kind) =>
    match definition.droppedName with
    | none => []
    | some name =>
      if schema.hasObject kind name then
        [.debug (kind.label ++ " " ++ name ++ " dropped by the dump itself")]
      else []
  | some (.alter, _) =>
    [.warning ("ignoring ALTER statement in dump: " ++ firstVisibleLine definition.text)]
  | some (.create, .table) => Table.notes definition.text
  | some (.create, .view) =>
    View.notes definition.text ++
    match View.parse definition.text with
    | .error _ => []
    | .ok view =>
      if (schema.table? view.name).isSome && (schema.view? view.name).isNone then
        [.debug ("view " ++ view.name ++ " replaces its placeholder table")]
      else []
  | some (.create, .routine _) => Routine.notes definition.text

/-- What a schema read to its end reports. -/
def closingNote (schema : Schema) : Note :=
  .info ("parsed " ++ (if schema.source.isEmpty then "schema".toList else schema.source) ++ ": " ++
    ofNat schema.tables.length ++ " tables, " ++ ofNat schema.views.length ++ " views, " ++
    ofNat schema.routines.length ++ " routines")

/-- What the given definitions report, up to the first that fails. -/
def stepsNotes (schema : Schema) : List Definition → Journal
  | [] => [schema.closingNote]
  | definition :: rest =>
    schema.stepNotes definition ++
    match schema.step definition with
    | .error _ => []
    | .ok next => stepsNotes next rest

/-- What reading a dump reports. -/
def notes (keepQuotes : Bool) (source raw : Text) : Journal :=
  Dump.notes keepQuotes raw ++ (empty source).stepsNotes (Dump.definitions keepQuotes raw)

end Schema

end SchemaMigration
