import SchemaMigration.Journal
import SchemaMigration.Source.Path

/-!
# Sessions

Reading schemas needs files and the client tools of the database server. A session holds
what there is to read, what the client tools will answer, and what was done so far.

## Main Definitions

* `Outcome` - how the run of a client tool ends
* `Run` - the command and the input of a run
* `Session` - files and answers, with the runs and notes so far
* `Session.note`, `Session.run` - the elementary steps

## Design Notes

The client tools answer in the order in which they are run, so their answers are a list of
which each run takes the first. When it is used up, no further program can be started.
-/

namespace SchemaMigration

open Text

/-- How the run of a client tool ends. -/
inductive Outcome
  /-- There is no such program. -/
  | missing
  | finished (status : Int) (output errors : Text)
  /-- The program ended as well, but what it wrote is no text. -/
  | undecodable (status : Int) (fault : Utf8Fault)
  deriving DecidableEq

/-- The run of a client tool. -/
structure Run where
  /-- The name of the program and its arguments. -/
  command : List Text
  input : Option Text
  deriving DecidableEq

/-- Where a session is held. -/
structure Circumstances where
  /-- The date and time as reports show them. -/
  now : Text
  /-- The seconds since the beginning of 1970. -/
  seconds : Nat
  process : Nat
  random : Nat
  /-- How long a dump takes, in hundredths of a second. -/
  dumpTime : Nat
  deriving DecidableEq

/-- Files and answers, with the runs and notes so far. -/
structure Session where
  circumstances : Circumstances
  files : Files
  /-- How the next runs of client tools will end. -/
  outcomes : List Outcome
  runs : List Run
  journal : Journal
  /-- The least level of the notes that are shown. -/
  threshold : Level
  /-- The file to which notes are written, if they are. -/
  logFile : Option (List Text)

/-- A step of a session. -/
abbrev Interaction := StateM Session

namespace Session

/-- The beginning of a session. -/
def start (circumstances : Circumstances) (files : Files) (outcomes : List Outcome) : Session where
  circumstances
  files
  outcomes
  runs := []
  journal := []
  threshold := .warning
  logFile := none

/-- A note as one line of a log. -/
def logLine (note : Note) : Text :=
  note.level.word ++ " mysqldiff: " ++ note.text ++ "\n"

/-- Takes a note. -/
def note (note : Note) : Interaction Unit := modify fun session =>
  let isShown := session.threshold.rank ≤ note.level.rank
  { session with
    journal := session.journal ++ [note]
    files := match session.logFile with
      | some names =>
        if isShown then session.files.append names (toUtf8 (logLine note)) else session.files
      | none => session.files }

/-- Takes several notes in order. -/
def notes : Journal → Interaction Unit
  | [] => return
  | first :: journal => do
    note first
    notes journal

/-- Runs a client tool. -/
def run (run : Run) : Interaction Outcome := modifyGet fun session =>
  (session.outcomes.headD .missing,
    { session with outcomes := session.outcomes.tail, runs := session.runs ++ [run] })

end Session

end SchemaMigration
