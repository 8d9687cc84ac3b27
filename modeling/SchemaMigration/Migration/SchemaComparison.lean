import SchemaMigration.Migration.Step
import SchemaMigration.Migration.TableComparison
import SchemaMigration.DependencyOrder

/-!
# Comparing two schemas

The steps that turn one schema into another. Tables are created behind those they refer to
and dropped in front of them, as far as references have no cycle; their foreign keys are
added when all tables exist.

## Main Definitions

* `SchemaComparison` - two schemas and how they are compared
* `SchemaComparison.steps` - the steps in order of execution
* `SchemaComparison.statements` - their statements
* `SchemaComparison.events` - what the comparison reports
* `Schema.references` - the tables of a schema behind those they refer to
-/

namespace SchemaMigration

open Text

/-- Two schemas that are to be compared. -/
structure SchemaComparison where
  old : Schema
  new : Schema
  options : Options

namespace SchemaComparison

variable (s : SchemaComparison)

/-! ## Tables -/

/-- The columns of a table that foreign keys refer to which the migration leaves alone; the
same columns are listed once. -/
def incoming (table : Text) : List (List Text) :=
  let kept := s.old.tables.flatMap fun child =>
    match s.new.table? child.name with
    | none => []
    | some newChild => child.foreignKeys.filter fun key =>
      key.refTable == table && newChild.foreignKey? key.name == some key
  kept.foldl (fun found key =>
    let columns := namedColumns key.refParts
    if columns.isEmpty || found.contains columns then found else found ++ [columns]) []

/-- The tables of the first schema that are looked at. -/
def selectedTables : List Table := s.old.tables.filter fun table => s.options.selects table.name

/-- The comparison of a table of the first schema with that of the second, if there is one. -/
def tableComparison? (table : Table) : Option TableComparison :=
  (s.new.table? table.name).map fun new =>
    { old := table, new, options := s.options, incoming := s.incoming table.name }

/-- The steps on tables that both schemas have. -/
def tableChanges : List Step :=
  s.selectedTables.flatMap fun table =>
    match s.tableComparison? table with
    | none => []
    | some comparison => comparison.steps.map (.alterTable table.name)

/-- The tables that only the first schema has. -/
def missingTables : List Table :=
  s.selectedTables.filter fun table => (s.new.table? table.name).isNone

/-- The other of the given tables that refer to a table. -/
def referrers (tables : List Table) (name : Text) : List Text :=
  let others := tables.filter fun table => table.name != name
  (others.filter fun table => table.referencedTables.contains name).map (·.name)

/-- The names of the given tables, those that refer to others in front of them. -/
def dropOrder (tables : List Table) : List Text :=
  dependencyOrder (referrers tables) tables.length (tables.map (·.name))

/-- The steps that drop tables. -/
def tableDrops : List Step :=
  if s.options.dropsMissing then (dropOrder s.missingTables).map .dropTable else []

/-- Whether a table is only in the second schema. -/
def isNewTable (name : Text) : Bool := (s.new.table? name).isSome && (s.old.table? name).isNone

/-- The new tables that a new table refers to. -/
def newReferences (name : Text) : List Text :=
  match s.new.table? name with
  | none => []
  | some table => table.referencedTables.filter s.isNewTable

/-- The tables to be created for some tables of the second schema, behind those they refer
to. -/
def createdFor (names : List Text) : List Table :=
  if s.options.onlyBoth then []
  else
    let wanted := names.filter fun name => s.options.selects name && (s.old.table? name).isNone
    (dependencyOrder s.newReferences s.new.tables.length wanted).filterMap s.new.table?

/-- The tables to be created, behind those they refer to. -/
def createdTables : List Table := s.createdFor (s.new.tables.map (·.name))

/-- The steps that create tables, and then their foreign keys. -/
def tableCreations : List Step :=
  s.createdTables.map .createTable ++
  s.createdTables.flatMap fun table => table.foreignKeys.map fun key =>
    .alterTable table.name { change := .addForeignKey key, action := .addForeignKey, comment := [] }

/-! ## Routines and views -/

/-- The steps on routines of the first schema. -/
def routineChanges : List Step :=
  s.old.routines.flatMap fun routine =>
    match s.new.routine? routine.key with
    | some new => if routine.signature = new.signature then [] else [.replaceRoutine routine new]
    | none => if s.options.dropsMissing then [.dropRoutine routine] else []

/-- The steps that create routines. -/
def routineCreations : List Step :=
  if s.options.onlyBoth then []
  else (s.new.routines.filter fun routine => (s.old.routine? routine.key).isNone).map .createRoutine

/-- The steps on views of the first schema. -/
def viewChanges : List Step :=
  s.old.views.flatMap fun view =>
    match s.new.view? view.name with
    | some new => if view.signature = new.signature then [] else [.alterView new]
    | none => if s.options.dropsMissing then [.dropView view.name] else []

/-- The steps that create views. -/
def viewCreations : List Step :=
  if s.options.onlyBoth then []
  else (s.new.views.filter fun view => (s.old.view? view.name).isNone).map .createView

/-! ## The whole -/

/-- All steps in order of discovery. -/
def foundSteps : List Step :=
  s.tableChanges ++ s.tableDrops ++ s.routineChanges ++ s.viewChanges ++ s.tableCreations ++
  s.routineCreations ++ s.viewCreations

/-- All steps in order of execution. -/
def steps : List Step := Phase.arrange Step.phase s.foundSteps

/-- The statements of the migration in order of execution. -/
def statements : List Statement := s.steps.map Step.statement

/-! ## Events -/

/-- What looking at the tables of the first schema reports. -/
def tableEvents : List Event :=
  s.old.tables.flatMap fun table =>
    match s.options.selection table.name, s.tableComparison? table with
    | .error breakage, _ => [.break breakage]
    | .ok false, _ =>
      [.note (.debug ("table " ++ table.name ++ " didn't match " ++
        (s.options.tableFilter.map (·.source)).getD [] ++ "; ignoring"))]
    | .ok true, none => [.note (.debug ("table " ++ table.name ++ " dropped"))]
    | .ok true, some comparison => comparison.events

/-- What the comparison of routines reports. -/
def routineNotes : Journal :=
  s.old.routines.flatMap fun routine =>
    let note := fun (verb : Text) =>
      Note.debug (routine.kind.label ++ " " ++ routine.name ++ " " ++ verb)
    match s.new.routine? routine.key with
    | some new => if routine.signature = new.signature then [] else [note "changed"]
    | none => if s.options.dropsMissing then [note "dropped"] else []

/-- What the comparison of views reports. -/
def viewNotes : Journal :=
  s.old.views.flatMap fun view =>
    let note := fun (verb : Text) => Note.debug ("view " ++ view.name ++ " " ++ verb)
    match s.new.view? view.name with
    | some new => if view.signature = new.signature then [] else [note "changed"]
    | none => if s.options.dropsMissing then [note "dropped"] else []

/-- What the creation of tables reports. -/
def creationEvents : List Event :=
  if s.options.onlyBoth then []
  else
    let names := s.new.tables.map (·.name)
    let told := names.takeWhile fun name => (s.options.selection name).isOk
    Event.ofJournal ((s.createdFor told).map fun table =>
      .debug ("table " ++ table.name ++ " added")) ++
    names.flatMap fun name => Event.ofResult (s.options.selection name)

/-- A source as notes name it, or the given words for one without a name. -/
def sourceName (source fallback : Text) : Text := if source.isEmpty then fallback else source

/-- What the comparison reports. It breaks off where a pattern cannot be applied. -/
def events : List Event :=
  .note (.info ("comparing " ++ sourceName s.old.source "first schema" ++ " with " ++
    sourceName s.new.source "second schema")) ::
  s.tableEvents ++
  Event.ofJournal (s.routineNotes ++ s.viewNotes) ++
  s.creationEvents ++
  [.note (.info (ofNat s.foundSteps.length ++ " statements generated"))]

end SchemaComparison

/-- What telling the selected tables of a schema reports. -/
def Schema.selectionEvents (schema : Schema) (options : Options) : List Event :=
  schema.tables.flatMap fun table => Event.ofResult (options.selection table.name)

/-- The tables of a schema that are selected or that such a table leads to, each behind the
tables that it refers to, with all tables that it refers to. -/
def Schema.references (schema : Schema) (options : Options) : List Statement :=
  let next := fun name =>
    match schema.table? name with
    | none => []
    | some table => table.referencedTables.filter fun ref => (schema.table? ref).isSome
  let selected := (schema.tables.map (·.name)).filter options.selects
  ((dependencyOrder next schema.tables.length selected).filterMap schema.table?).map fun table =>
    Step.simpleStatement .createTable table.name .refTable [] false table.referencedTables

end SchemaMigration
