import SchemaMigration.Options.Basic
import SchemaMigration.Source.Scratch

/-!
# Sources of schemas

A schema is read from a dump file or from a database.

## Main Definitions

* `Source` - a file or a database
* `Source.ofArgument` - the source that an argument names
* `Source.schema` - the schema of a source
-/

namespace SchemaMigration

open Text

/-- Where a schema is read from. -/
inductive SourceKind
  | file
  | database
  deriving DecidableEq

/-- A file or a database, with the connection through which it is read. -/
structure Source where
  kind : SourceKind
  name : Text
  connection : Connection
  deriving DecidableEq

namespace Source

/-- A source as reports name it. -/
def summary (source : Source) : Text :=
  match source.kind with
  | .file => "file: " ++ source.name
  | .database =>
    let settings := source.connection.summary
    let shown : Text := if settings.isEmpty then [] else " (" ++ settings ++ ")"
    "  db: " ++ source.name ++ shown

/-- The source that an argument names. A connection of its own makes it a database, and so
does a prefix that says so; otherwise an existing file counts before a database. -/
def ofArgument (argument : Text) (connection : Connection) (hasOwnConnection : Bool) :
    Loading Source := do
  match after? "db:" argument with
  | some name => return ⟨.database, name, connection⟩
  | none =>
    if hasOwnConnection then return ⟨.database, argument, connection⟩
    let session ← (get : Interaction Session)
    if ← Loading.ofExcept .file (session.files.isFile (.ofText argument)) then
      return ⟨.file, argument, connection⟩
    match ← Loading.outcome (Client.databases connection) with
    | .ok names =>
      if argument ∈ names then return ⟨.database, argument, connection⟩
      else throw (.unknown argument none)
    | .error (.tool error) => throw (.unknown argument (some error))
    | .error error => throw error

/-- The dump of a source; of a file, in canonical form if that is asked for. -/
def text (source : Source) (inCanonicalForm : Bool) : Loading Text :=
  match source.kind with
  | .file =>
    let path := Path.ofText source.name
    if inCanonicalForm then canonicalise path source.connection else Loading.fileText path
  | .database => Client.dump source.name source.connection

/-- The schema of a source. -/
def schema (source : Source) (options : Options) (inCanonicalForm : Bool) : Loading Schema := do
  let dump ← source.text inCanonicalForm
  ExceptT.lift (Session.notes (Schema.notes options.saveQuotes source.summary dump))
  Loading.ofExcept .schema (Schema.parse options.saveQuotes source.summary dump)

end Source

end SchemaMigration
