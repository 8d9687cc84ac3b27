import SchemaMigration.Source.Client
import SchemaMigration.Text.Search

/-!
# Definitions in canonical form

A file of definitions is brought into the form of a dump by loading it into a scratch
database that is dumped and dropped again. A file with a command that would leave that
database is refused before anything is run.

## Main Definitions

* `dangerousCommand?` - a command that would change another database
* `scratchName` - the name of the scratch database
* `canonicalise` - the definitions of a file as a dump
-/

namespace SchemaMigration

open Text

/-- The rest behind a command that names the database to be changed: a change of database,
or the creation or removal of one. -/
def databaseCommand? (text : Text) : Option Text :=
  ((keyword? "USE" text).orElse fun _ =>
    ((anyKeyword? ["DROP", "CREATE"] text).bind (afterKeyword? "DATABASE"))).filter endsWord

/-- The command at the beginning of a statement, behind any blanks. -/
def leadingDatabaseCommand? (text : Text) : Option Text :=
  let statement := trimLeft text
  (databaseCommand? statement).map (before statement)

/-- The command at the beginning of a statement behind a semicolon. -/
def laterDatabaseCommand? : Text → Option Text
  | [] => none
  | c :: text =>
    if c = ';' then (leadingDatabaseCommand? text).or (laterDatabaseCommand? text)
    else laterDatabaseCommand? text

/-- The first command of a script that names the database to be changed, as it is written.
A statement begins at the beginning of the script and behind every semicolon, also within
comments and quotes. -/
def dangerousCommand? (script : Text) : Option Text :=
  (leadingDatabaseCommand? script).or (laterDatabaseCommand? script)

/-- The name of the scratch database. -/
def scratchName (circumstances : Circumstances) : Text :=
  "test_mysqldiff-temp-" ++ ofNat circumstances.seconds ++ "_" ++
    ofNat circumstances.process ++ "_" ++ ofNat circumstances.random

/-- Sends SQL to the server, or to one database of it. -/
def execute (connection : Connection) (database : List Text) (sql : Text) : Loading Unit := do
  let _ ← Client.output "mysql" (connection.arguments ++ database) (some sql)

/-- The dump of the scratch database of a name. -/
def dumpScratch (name : Text) (connection : Connection) : Loading Text := do
  match ← Loading.outcome (Client.dump name connection) with
  | .ok text => return text
  | .error (.tool error) => throw (.tool ⟨.scratch name, error.output⟩)
  | .error error => throw error

/-- What a script makes of the scratch database of a name, which exists already. -/
def dumpOfScript (name script : Text) (connection : Connection) : Loading Text := do
  execute connection [name] script
  dumpScratch name connection

/-- Removes the scratch database of a name. -/
def dropScratch (name : Text) (connection : Connection) : Loading Unit := do
  Loading.note (.info ("dropping temporary database " ++ name))
  execute connection [] ("DROP DATABASE \x60" ++ name ++ "\x60;\n")

/-- The definitions of a file as a dump. The scratch database is dropped in any case. -/
def canonicalise (path : Path) (connection : Connection) : Loading Text := do
  let script ← Loading.fileText path
  match dangerousCommand? script with
  | some command => throw (.dangerous path command)
  | none =>
    let session ← (get : Interaction Session)
    let name := scratchName session.circumstances
    Loading.note (.info ("creating temporary database " ++ name))
    execute connection [] ("CREATE DATABASE \x60" ++ name ++ "\x60;\n")
    Loading.ensuring (dumpOfScript name script connection) (dropScratch name connection)

end SchemaMigration
