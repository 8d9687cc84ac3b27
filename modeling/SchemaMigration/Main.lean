import SchemaMigration.CommandLine.Program
import Std.Time.Format
import Std.Time.Zoned

/-!
# Command line

Gathers what a command line refers to, runs the program on it, and writes what changed. No
client tool is started from here, so that only dump files can be compared.
-/

namespace SchemaMigration.CommandLine

open Text

/-- A text for the outside. -/
def shown (text : Text) : String := String.ofList text

/-- Whether there is a directory of a name: only then does it lead to itself by a dot. -/
def directoryExists (name : String) : IO Bool :=
  try
    let _ ← IO.FS.Handle.mk (name ++ "/.") .read
    return true
  catch _ => return false

/-- The octets of a file, if it can be read. -/
def octets? (name : String) : IO (Option (List Nat)) :=
  try
    let bytes ← IO.FS.readBinFile name
    return some (bytes.toList.map UInt8.toNat)
  catch _ => return none

/-- The files with what is found at a path and on the way to it. -/
def survey (files : Files) (path : Path) : IO Files := do
  let mut files := files
  for count in List.range path.parts.length do
    let parent : Path := { path with parts := path.parts.take count }
    if ← directoryExists (shown parent.text) then
      files := { files with directories := Files.straightNames parent :: files.directories }
  if ← directoryExists (shown path.text) then
    return { files with directories := Files.straightNames path :: files.directories }
  match ← octets? (shown path.text) with
  | some octets => return files.put (Files.straightNames path) octets
  | none => return files

/-- The paths that a command line refers to. -/
def paths (words : List Text) : List Path :=
  match Arguments.ofWords Platform.bundled.hyphens words with
  | .error _ => []
  | .ok arguments =>
    let preferences := arguments.preferences
    (arguments.first.toList ++ arguments.second.toList ++ preferences.config.toList ++
      preferences.debugFile.toList ++ preferences.output.toList).map Path.ofText

/-- The path to which names lead. -/
def pathOfNames : List Text → Path
  | ['/'] :: parts => ⟨"/", parts⟩
  | parts => ⟨[], parts⟩

/-- Writes the files that differ from what they were. -/
def writeChanges (old new : Files) : IO Unit := do
  for (names, octets) in new.contents do
    if old.octets? names ≠ some octets then
      let path := pathOfNames names
      IO.FS.createDirAll (shown { path with parts := path.parts.dropLast : Path }.text)
      IO.FS.writeBinFile (shown path.text) ⟨(octets.map Nat.toUInt8).toArray⟩

/-- The circumstances of a session that begins now. -/
def circumstances : IO Circumstances := do
  let date ← Std.Time.PlainDateTime.now
  let stamp ← Std.Time.Timestamp.now
  let day := date.format "d"
  let day := if day.length < 2 then " " ++ day else day
  return {
    now := (date.format "EEE MMM " ++ day ++ date.format " HH:mm:ss uuuu").toList
    seconds := stamp.toSecondsSinceUnixEpoch.val.toNat
    process := ← IO.rand 1 4194303
    random := ← IO.rand 0 1073741823
    dumpTime := 0 }

/-- What is told to those who ask for help. -/
def usage : String := "usage: mysqldiff [options] DB1 DB2\n"

/-- What is written for a fault that the program does not explain. -/
def crashMessage : Crash → Text
  | .file fault => fault.message
  | .encoding fault => fault.message
  | .yaml fault => ((ConfigError.yaml fault).message?).getD "the configuration is not valid YAML"
  | .options _ => "the configuration is too deep for this program"
  | .lostSetting setting => "nothing is left of the value of " ++
      join ", " ((Setting.names.filter (·.2 = setting)).map (·.1))
  | .lostSchema => "nothing is left of the name of a schema"
  | .pattern breakage => breakage.message

end SchemaMigration.CommandLine

open SchemaMigration SchemaMigration.CommandLine in
/-- Compares the schemas that the command line names. -/
def main (arguments : List String) : IO UInt32 := do
  let words := arguments.map String.toList
  let files ← (paths words).foldlM survey Files.empty
  let (ending, session) := (Program.main words).run (.start (← circumstances) files [])
  let out ← IO.getStdout
  let err ← IO.getStderr
  writeChanges files session.files
  err.putStr (shown session.shownNotes)
  match ending with
  | .exited ended =>
    out.putStr (shown ended.output)
    err.putStr (shown ended.complaint)
    return ended.status.toUInt32
  | .refused .version =>
    out.putStr (shown Program.versionLine)
    return 0
  | .refused .help =>
    out.putStr usage
    return 0
  | .refused .usage =>
    err.putStr usage
    return 2
  | .crashed crash =>
    err.putStr (shown (crashMessage crash ++ "\n"))
    return 1
