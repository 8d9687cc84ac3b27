import SchemaMigration.CommandLine.Arguments
import SchemaMigration.Options.File
import SchemaMigration.Report
import SchemaMigration.Source.Basic

/-!
# The program

A command line names two schemas. The program reads both, compares them, and writes the
report on the differences to its output or to a file.

## Main Definitions

* `Platform` - what the program builds on
* `Ending` - how the program ends
* `Crash` - a fault that the program does not explain
* `Program.compare` - the comparison that a command line asks for
* `Program.mainOn` - what the program does with the words of a command line
* `Program.main` - the same, on the platform that comes with this library

## Design Notes

Command lines and documents are read by libraries that are not part of the program, and of which
there are several releases. The program takes from them what a `Platform` tells.
-/

namespace SchemaMigration

open Text

/-- What the program builds on. -/
structure Platform where
  /-- What becomes of two hyphens that stand as the value of a setting. -/
  hyphens : HyphenRule
  /-- What makes a configuration of the text of a document. -/
  reader : DocumentReader

/-- The platform that comes with this library. -/
def Platform.bundled : Platform := ⟨.lost, Configuration.ofYaml⟩

/-- The end of a comparison: its status, and what is written besides notes. -/
structure Exit where
  status : Nat
  output : Text
  /-- What is written for people when the program fails. -/
  complaint : Text
  deriving DecidableEq

/-- A fault that the program does not explain. -/
inductive Crash
  | file (fault : FileFault)
  | encoding (fault : Utf8Fault)
  | yaml (fault : Yaml.Fault)
  | options (error : OptionsError)
  /-- Nothing is left of the value of a setting that needs one. -/
  | lostSetting (setting : Setting)
  /-- Nothing is left of the name of a schema. -/
  | lostSchema
  /-- A tolerance rule or the table filter cannot be applied. -/
  | pattern (breakage : Breakage)
  deriving DecidableEq

/-- How the program ends, whatever it was asked. -/
inductive Ending
  | refused (refusal : Refusal)
  | crashed (crash : Crash)
  | exited (ended : Exit)
  deriving DecidableEq

/-- A part of the program, which may end it. -/
abbrev Program := ExceptT Ending Interaction

namespace Program

/-- Ends the program with a status and a complaint. -/
def fail {α : Type} (status : Nat) (complaint : Text) : Program α :=
  throw (.exited ⟨status, [], complaint ++ "\n"⟩)

/-- Breaks off without an explanation. -/
def crash {α : Type} (crash : Crash) : Program α := throw (.crashed crash)

/-- The least level of the notes that are shown at a level of debugging. -/
def threshold (debug : Int) : Level :=
  if debug ≤ 0 then .warning else if debug = 1 then .info else .debug

/-- Says which notes are shown, and where they are written. -/
def openLog (preferences : Preferences) : Program Unit := do
  if .debug ∈ preferences.lost then crash (.lostSetting .debug)
  let session ← (get : Interaction Session)
  let session := { session with threshold := threshold preferences.debug }
  match preferences.debugFile.filter (! ·.isEmpty) with
  | none => (set session : Interaction Unit)
  | some path =>
    match session.files.locateLog (.ofText path) with
    | .error fault => crash (.file fault)
    | .ok names =>
      (set { session with
        files := session.files.append names [], logFile := some names } : Interaction Unit)

/-- Ends the program because its configuration cannot be used. -/
def refuseConfiguration {α : Type} (reason : Text) : Program α :=
  fail 2 ("Invalid configuration: " ++ reason)

/-- Ends the program because its configuration cannot be used, with an explanation if there
is one. -/
def refuseOptions {α : Type} (error : OptionsError) : Program α :=
  match error.message? with
  | some reason => refuseConfiguration reason
  | none => crash (.options error)

/-- The options that a file gives. -/
def optionsOfFile (platform : Platform) (path : Path) : Program Options := do
  let session ← (get : Interaction Session)
  match session.files.read path with
  | .error fault => refuseConfiguration fault.message
  | .ok octets =>
    match ofFile octets with
    | .error fault => refuseConfiguration fault.message
    | .ok text =>
      match Options.default.ofDocument platform.reader path.text text with
      | .ok options => return options
      | .error (.options error) => refuseOptions error
      | .error (.yaml (.range message)) => refuseConfiguration message
      | .error (.yaml fault) => crash (.yaml fault)

/-- Options with the settings of a command line. -/
def override (options : Options) (preferences : Preferences) : Except OptionsError Options :=
  let changed := { options with
    tolerant := options.tolerant || preferences.tolerant
    noOldDefs := options.noOldDefs || preferences.noOldDefs
    onlyBoth := options.onlyBoth || preferences.onlyBoth
    keepOldTables := options.keepOldTables || preferences.keepOldTables
    listTables := options.listTables || preferences.listTables
    refs := options.refs || preferences.refs
    saveQuotes := options.saveQuotes || preferences.saveQuotes }
  match preferences.tableRe with
  | none => .ok changed
  | some source => changed.withTableRe (some source)

/-- The options of a run: those of a file, if one is named, with the settings of the command
line. -/
def options (platform : Platform) (preferences : Preferences) : Program Options := do
  let base ← match preferences.config.filter (! ·.isEmpty) with
    | none => pure Options.default
    | some path => optionsOfFile platform (.ofText path)
  if .tableRe ∈ preferences.lost then crash (.lostSetting .tableRe)
  match override base preferences with
  | .ok options => return options
  | .error error => refuseOptions error

/-- A part of a session that reads schemas, with the ending that belongs to its error. -/
def load {α : Type} (part : Loading α) : Program α := do
  match ← (part.run : Interaction (Except SourceError α)) with
  | .ok value => return value
  | .error (.file fault) => crash (.file fault)
  | .error (.encoding fault) => crash (.encoding fault)
  | .error (.tool error) => fail 1 ("mysqldiff: " ++ error.message)
  | .error (.schema error) => fail 1 ("mysqldiff: " ++ error.message)
  | .error error => fail 2 error.message

/-- The schema that an argument names, given the settings of its connection alone. -/
def schema (name : Option Text) (own : Connection) (preferences : Preferences)
    (options : Options) : Program Schema :=
  match name with
  | none => crash .lostSchema
  | some name => load do
    let source ← Source.ofArgument name (preferences.shared.merged own) own.isSet
    source.schema options preferences.canonicalise

/-- The report on two schemas. -/
def report (comparison : SchemaComparison) : Program Text := do
  let events := Report.events comparison
  (Session.notes (Event.notesUntilBreak events) : Interaction Unit)
  if let some breakage := Event.breakage? events then crash (.pattern breakage)
  let session ← (get : Interaction Session)
  return Report.ofSchemas comparison session.circumstances.now

/-- Writes a report to a file, if one is named, and otherwise to the output. -/
def deliver (report : Text) (file : Option Text) : Program Exit := do
  match file.filter (! ·.isEmpty) with
  | none => return ⟨0, report, []⟩
  | some path =>
    let session ← (get : Interaction Session)
    match session.files.write (.ofText path) (toUtf8 report) with
    | .error fault => crash (.file fault)
    | .ok files =>
      (set { session with files } : Interaction Unit)
      (Session.note (.info ("wrote " ++ path)) : Interaction Unit)
      return ⟨0, [], []⟩

/-- Compares the schemas that a command line names. -/
def compare (platform : Platform) (arguments : Arguments) : Program Exit := do
  let preferences := arguments.preferences
  openLog preferences
  let options ← options platform preferences
  let old ← schema arguments.first preferences.ownFirst preferences options
  let new ← schema arguments.second preferences.ownSecond preferences options
  deliver (← report { old, new, options }) preferences.output

/-- The line that tells the version. -/
def versionLine : Text := "mysqldiff " ++ Report.version ++ "\n"

/-- How the program ends on a platform with the words of a command line. -/
def mainOn (platform : Platform) (words : List Text) : Interaction Ending := do
  match Arguments.ofWords platform.hyphens words with
  | .error refusal => return .refused refusal
  | .ok arguments =>
    match ← (compare platform arguments).run with
    | .ok ended => return .exited ended
    | .error ending => return ending

/-- How the program ends with the words of a command line. -/
def main (words : List Text) : Interaction Ending := mainOn .bundled words

end Program

/-- The notes of a session that are shown, as the lines of a log; none if they are in a file. -/
def Session.shownNotes (session : Session) : Text :=
  match session.logFile with
  | some _ => []
  | none => (session.journal.shown session.threshold).flatMap logLine

end SchemaMigration
