import SchemaMigration.Migration.SchemaComparison

/-!
# Reports

A report is the SQL text of a migration: a banner, then the statements in order, each with
its old definition as a comment behind it, or with a header for machines in front.

## Main Definitions

* `Report.banner`, `Report.header` - what stands in front of all or of one statement
* `Report.renderStatement`, `Report.render` - the text of a statement and of a report
* `Report.renderReferences` - the headers of a listing of references
* `Report.ofSchemas` - the report on two schemas
-/

namespace SchemaMigration.Report

open Text

/-- Whose report it is, and when it was made. -/
structure Stamp where
  version : Text
  now : Text

/-- The comment lines in front of a report. -/
def banner (stamp : Stamp) (oldSource newSource : Text) (options : Options) : Text :=
  let described := options.describe
  unlines (
    (["## mysqldiff " ++ stamp.version, "## ", "## Run on " ++ stamp.now] : List Text) ++
    (if described.isEmpty then [] else ["## Options: ".toList ++ described]) ++
    (["##", "## --- " ++ oldSource, "## +++ " ++ newSource, [], []] : List Text))

/-- A text between double quotes. -/
def inQuotes (text : Text) : Text := "\x22" ++ text ++ "\x22"

/-- The header of a statement: its object, its action and, if asked for and any, the tables
that are referred to. -/
def header (statement : Statement) (withReferences : Bool) : Text :=
  let name := "-- \t\x22name\x22 : " ++ inQuotes statement.name ++ ","
  let action := "-- \t\x22action_type\x22 : " ++ inQuotes statement.action
  let refs := statement.referencedTables
  let lines : List Text :=
    if withReferences && ! refs.isEmpty then
      ["-- \x7b", name, action ++ ",", "-- \t\x22referenced_tables\x22 : [",
        join ",\n" (refs.map fun ref => "-- \t\t" ++ inQuotes ref), "-- \t]", "-- \x7d"]
    else ["-- \x7b", name, action, "-- \x7d"]
  unlines lines ++ "\n"

/-- A statement with what stands around it in a report. -/
def renderStatement (statement : Statement) (options : Options) : Text :=
  let head : Text := if options.listTables then header statement true else []
  let comment : Text :=
    if statement.comment.isEmpty || options.noOldDefs then [] else " # " ++ statement.comment
  let gap : Text := if statement.isSpaced then "\n" else []
  head ++ statement.sql ++ comment ++ "\n" ++ gap

/-- A listing of references. -/
def renderReferences (statements : List Statement) : Text :=
  statements.flatMap fun statement => header statement true ++ "\n"

/-- A report of the given statements, or nothing if there are none. -/
def render (statements : List Statement) (options : Options) (stamp : Stamp)
    (oldSource newSource : Text) : Text :=
  if statements.isEmpty then []
  else
    (if options.listTables then [] else banner stamp oldSource newSource options) ++
    statements.flatMap fun statement => renderStatement statement options

/-- The version of this program. -/
def version : Text := "0.1.0"

/-- The report on two schemas made at the given time: the statements of the migration, or
the references in the first schema if those are asked for. -/
def ofSchemas (comparison : SchemaComparison) (now : Text) : Text :=
  let options := comparison.options
  if options.refs then renderReferences (comparison.old.references options)
  else render comparison.statements options ⟨version, now⟩ comparison.old.source
    comparison.new.source

/-- What making the report on two schemas reports. -/
def events (comparison : SchemaComparison) : List Event :=
  if comparison.options.refs then comparison.old.selectionEvents comparison.options
  else comparison.events

end SchemaMigration.Report
