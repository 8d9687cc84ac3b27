import SchemaMigration.Schema.Parser
import SchemaMigration.Source.Connection
import SchemaMigration.Source.Session

/-!
# Client tools

Databases are listed, dumped and filled through the client tools of the database server.
Whatever goes wrong in that is an error of the tool, with the output that it left; only where
that output is no text it is an error of its encoding.

## Main Definitions

* `ToolError` - why a client tool gave no text
* `SourceError` - why no schema was read
* `Loading` - a part of a session that may fail
* `Client.output` - the output of a client tool
* `Client.databases`, `Client.dump` - the databases of a server, and the dump of one
-/

namespace SchemaMigration

open Text

/-- Why a client tool gave no text. -/
inductive ToolCause
  | missing (program : Text)
  | failed (program : Text) (status : Int)
  | unknownDatabase (name : Text)
  /-- The scratch database of a name could not be dumped. -/
  | scratch (name : Text)
  deriving DecidableEq

/-- The cause in words. -/
def ToolCause.message : ToolCause → Text
  | missing program =>
    "Couldn't execute '" ++ program ++ "': [Errno 2] No such file or directory: " ++ quoted program
  | failed program status => program ++ " failed with exit status ".toList ++ ofInt status
  | unknownDatabase name => "Couldn't read " ++ name ++ "'s table defs via mysqldump"
  | scratch name =>
    "Failed to create temporary database " ++ name ++ " during canonicalization. " ++
    "Make sure that your mysql.db table has a row authorizing full access to all ".toList ++
    "databases matching 'test\\_%', and that the database doesn't already exist.".toList

/-- The failure of a client tool. -/
structure ToolError where
  cause : ToolCause
  /-- What the tool wrote. -/
  output : Text
  deriving DecidableEq

/-- What went wrong, in words, with what the tool wrote. -/
def ToolError.message (error : ToolError) : Text :=
  if error.output.isEmpty then error.cause.message
  else error.cause.message ++ "\n" ++ trimRight error.output

/-- Why no schema was read. -/
inductive SourceError
  | file (fault : FileFault)
  | encoding (fault : Utf8Fault)
  | tool (error : ToolError)
  | schema (error : SchemaError)
  /-- A file has a command that would change another database than the scratch one. -/
  | dangerous (path : Path) (command : Text)
  /-- An argument names neither a file nor a database; if the databases could not be listed,
  with the reason for that. -/
  | unknown (argument : Text) (reason : Option ToolError)

/-- What went wrong, in words. -/
def SourceError.message : SourceError → Text
  | file fault => fault.message
  | encoding fault => fault.message
  | tool error => error.message
  | schema error => error.message
  | dangerous path command =>
    path.text ++ " contains dangerous command '" ++ command ++ "'; aborting."
  | unknown argument reason =>
    "'" ++ argument ++ "' is not a valid file or database." ++
      match reason with
      | none => []
      | some error => '\n' :: error.message

/-- A part of a session that may fail. -/
abbrev Loading := ExceptT SourceError Interaction

namespace Loading

/-- Takes a note. -/
def note (note : Note) : Loading Unit := ExceptT.lift (Session.note note)

/-- The value of a result, or its error. -/
def ofExcept {ε α : Type} (describe : ε → SourceError) : Except ε α → Loading α
  | .ok value => return value
  | .error error => throw (describe error)

/-- The text of a file. -/
def fileText (path : Path) : Loading Text := do
  let session ← (get : Interaction Session)
  let octets ← ofExcept .file (session.files.read path)
  ofExcept .encoding (ofFile octets)

/-- What a part of a session came to, be it an error. -/
def outcome {α : Type} (part : Loading α) : Loading (Except SourceError α) :=
  ExceptT.lift part.run

/-- A part of a session with another one behind it that happens in any case; if that fails,
its error counts. -/
def ensuring {α : Type} (part : Loading α) (closing : Loading Unit) : Loading α := do
  let result ← outcome part
  closing
  ofExcept id result

end Loading

namespace Client

/-- A command as notes show it: without the password. -/
def shownCommand (command : List Text) : Text :=
  join " " (command.map fun argument =>
    if startsWith "--password=" argument then "--password=***" else argument)

/-- The output of a client tool, given the name of the program and its arguments. -/
def output (program : Text) (arguments : List Text) (input : Option Text) : Loading Text := do
  let command := program :: arguments
  Loading.note (.debug ("running " ++ shownCommand command))
  match ← (Session.run ⟨command, input⟩ : Interaction Outcome) with
  | .missing => throw (.tool ⟨.missing program, []⟩)
  | .finished status output errors =>
    if status = 0 then return output ++ errors
    else throw (.tool ⟨.failed program status, output ++ errors⟩)
  | .undecodable _ fault => throw (.encoding fault)

/-- The name of the database in a line of a listing. -/
def listedDatabase? (line : Text) : Option Text := do
  let name := (← after? "| " line).takeWhile fun c => isWordCharacter c || c == '-'
  if name.isEmpty then none else some name

/-- The databases of a server. -/
def databases (connection : Connection) : Loading (List Text) := do
  let listing ← output "mysqlshow" connection.arguments none
  return (visibleLines listing).filterMap listedDatabase?

/-- The arguments that ask for definitions only. -/
def dumpArguments : List Text :=
  ["--no-data", "--quick", "--single-transaction", "--force", "--routines", "--triggers"]

/-- A number of hundredths as a decimal. -/
def hundredths (n : Nat) : Text :=
  let fraction := ofNat (n % 100)
  ofNat (n / 100) ++ ".".toList ++ (if fraction.length < 2 then '0' :: fraction else fraction)

/-- The dump of a database. -/
def dump (name : Text) (connection : Connection) : Loading Text := do
  let text ← output "mysqldump" (dumpArguments ++ connection.arguments ++ [name]) none
  if occursIn "Unknown database" text then throw (.tool ⟨.unknownDatabase name, text⟩)
  let session ← (get : Interaction Session)
  Loading.note (.debug ("dump of " ++ name ++ " took " ++
    hundredths session.circumstances.dumpTime ++ "s"))
  return text

end Client

end SchemaMigration
