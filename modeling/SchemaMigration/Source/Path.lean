import SchemaMigration.Text.Quoted
import SchemaMigration.Text.Utf8

/-!
# Paths and files

A path is a sequence of names. Files are found by the names that lead to them; the
directories on the way exist as long as the file does.

## Main Definitions

* `Path` - a path
* `Path.ofText`, `Path.text` - a path from its text, and its plainest text
* `Files` - the files and directories that are known
* `FileFault` - why a file cannot be read or written
* `Files.read`, `Files.write`, `Files.append` - the contents of a file, and changing them
-/

namespace SchemaMigration

open Text

/-- A path: names, of which two dots lead back to the directory above. -/
structure Path where
  /-- The slashes in front of an absolute path. -/
  root : Text
  parts : List Text
  deriving DecidableEq

namespace Path

/-- The slashes that make the path of a text absolute. Two slashes in front stay, more of them
count as one. -/
def rootOf (text : Text) : Text :=
  match (text.takeWhile (· == '/')).length with
  | 0 => []
  | 2 => "//"
  | _ => "/"

/-- The path of a text. Repeated slashes count once, and a single dot leads nowhere. -/
def ofText (text : Text) : Path where
  root := rootOf text
  parts := (splitWhere (· == '/') text).filter fun part => ! part.isEmpty && part != "."

/-- The plainest text of a path. -/
def text (path : Path) : Text :=
  let parts := join "/" path.parts
  if path.root.isEmpty && parts.isEmpty then "." else path.root ++ parts

/-- The greatest number of octets of a name. -/
def mostNameOctets : Nat := 255

/-- The greatest number of octets of a path. -/
def mostOctets : Nat := 4095

/-- Whether a name is too long for a file. -/
def isTooLongName (name : Text) : Bool := mostNameOctets < (toUtf8 name).length

/-- Whether a path is too long as a whole. -/
def isTooLong (path : Path) : Bool := mostOctets < (toUtf8 path.text).length

/-- Whether a name has a null character, which no file has. -/
def hasNull (name : Text) : Bool := '\x00' ∈ name

end Path

/-- Why a file cannot be read or written. -/
inductive FileFault
  | missing (path : Path)
  | alreadyExists (path : Path)
  | notDirectory (path : Path)
  | isDirectory (path : Path)
  | nameTooLong (path : Path)
  /-- The path has a null character. -/
  | nullCharacter
  /-- A directory would have to be made whose path has a null character. -/
  | nullDirectory
  deriving DecidableEq

/-- What went wrong, in words. -/
def FileFault.message : FileFault → Text
  | missing path => "[Errno 2] No such file or directory: " ++ quoted path.text
  | alreadyExists path => "[Errno 17] File exists: " ++ quoted path.text
  | notDirectory path => "[Errno 20] Not a directory: " ++ quoted path.text
  | isDirectory path => "[Errno 21] Is a directory: " ++ quoted path.text
  | nameTooLong path => "[Errno 36] File name too long: " ++ quoted path.text
  | nullCharacter => "embedded null byte"
  | nullDirectory => "mkdir: embedded null character in path"

/-- The files and directories that are known. They are found by the names that lead to them
from the working directory; behind a slash as the first name, from the root. -/
structure Files where
  directories : List (List Text)
  /-- The octets of the files. -/
  contents : List (List Text × List Nat)

namespace Files

/-- No files. -/
def empty : Files := ⟨[], []⟩

/-- The octets of the file to which names lead. -/
def octets? (files : Files) (names : List Text) : Option (List Nat) := files.contents.lookup names

/-- Whether names lead to a file. -/
def hasFile (files : Files) (names : List Text) : Bool := (files.octets? names).isSome

/-- Whether names lead to a directory. -/
def hasDirectory (files : Files) (names : List Text) : Bool :=
  names.isEmpty || names ∈ files.directories ||
    files.contents.any fun (file, _) => names.isPrefixOf file && names.length < file.length

/-- The names behind one more name, both in reverse order; two dots lead back. -/
def follow (passed : List Text) (part : Text) : List Text :=
  if part = "..".toList then
    match passed with
    | [] => [part]
    | last :: rest =>
      if last = part then part :: passed
      else if last = "/".toList then passed
      else rest
  else part :: passed

/-- Where a path leads, if all names but the last are those of directories. The names passed
so far are in reverse order. -/
def walk (files : Files) (path : Path) (passed : List Text) :
    List Text → Except FileFault (List Text)
  | [] => .ok passed.reverse
  | part :: parts =>
    if Path.isTooLongName part then .error (.nameTooLong path)
    else
      let passed := follow passed part
      if parts.isEmpty || files.hasDirectory passed.reverse then walk files path passed parts
      else if files.hasFile passed.reverse then .error (.notDirectory path)
      else .error (.missing path)

/-- The first of the names that lead to an absolute path. -/
def root (path : Path) : List Text := if path.root.isEmpty then [] else ["/"]

/-- Where a path leads. -/
def locate (files : Files) (path : Path) : Except FileFault (List Text) :=
  if path.parts.any Path.hasNull then .error .nullCharacter
  else if path.isTooLong then .error (.nameTooLong path)
  else files.walk path (root path) path.parts

/-- The names of a path without those that lead somewhere and back again. -/
def straightNames (path : Path) : List Text := (path.parts.foldl follow (root path)).reverse

/-- The octets of a file. -/
def read (files : Files) (path : Path) : Except FileFault (List Nat) := do
  let names ← files.locate path
  match files.octets? names with
  | some octets => return octets
  | none => throw (if files.hasDirectory names then .isDirectory path else .missing path)

/-- Whether a path leads to a file. Of a path that is too long this cannot be told. -/
def isFile (files : Files) (path : Path) : Except FileFault Bool :=
  match files.locate path with
  | .ok names => .ok (files.hasFile names)
  | .error (.nameTooLong path) => .error (.nameTooLong path)
  | .error _ => .ok false

/-- Contents with the given octets at a place. -/
def putContent (names : List Text) (octets : List Nat) :
    List (List Text × List Nat) → List (List Text × List Nat)
  | [] => [(names, octets)]
  | (file, old) :: contents =>
    if file = names then (names, octets) :: contents
    else (file, old) :: putContent names octets contents

/-- The files with the given octets at a place. -/
def put (files : Files) (names : List Text) (octets : List Nat) : Files :=
  { files with contents := putContent names octets files.contents }

/-- The files with more octets at the end of one, which may be new. -/
def append (files : Files) (names : List Text) (octets : List Nat) : Files :=
  files.put names ((files.octets? names).getD [] ++ octets)

/-- What stands in the way of a file, of which the names are given and those in front of it
must be directories. -/
def obstacle? (files : Files) (path : Path) (names : List Text) : Option FileFault :=
  let fault := fun (count : Nat) =>
    let front := names.take count
    if (front.getLast?).any Path.isTooLongName then some (.nameTooLong path)
    else if count = names.length || files.hasDirectory front then none
    else if files.hasFile front then some (.notDirectory path)
    else some (.missing path)
  (List.range (names.length + 1)).findSome? fault

/-- Where a file may be written that is opened at its end: its directory must exist. -/
def locateLog (files : Files) (path : Path) : Except FileFault (List Text) :=
  let names := straightNames path
  if path.parts.any Path.hasNull then .error .nullCharacter
  else if path.isTooLong then .error (.nameTooLong path)
  else if files.hasDirectory names then .error (.isDirectory path)
  else match files.obstacle? path names with
    | some fault => .error fault
    | none => .ok names

/-- What stands in the way of a directory with the given names that is made if it is missing:
the first of its parents that is a file or has too long a name. -/
def directoryObstacle? (files : Files) (path : Path) (names : List Text) : Option FileFault :=
  let fault := fun (count : Nat) =>
    let front := names.take count
    if (front.getLast?).any Path.isTooLongName then some (.nameTooLong path)
    else if ! files.hasFile front then none
    else if count = names.length then some (.alreadyExists path)
    else some (.notDirectory path)
  (List.range (names.length + 1)).findSome? fault

/-- The files with the given octets at a path. Directories on the way are made. -/
def write (files : Files) (path : Path) (octets : List Nat) : Except FileFault Files :=
  let names := straightNames path
  if path.parts.dropLast.any Path.hasNull then .error .nullDirectory
  else match files.directoryObstacle? path names.dropLast with
    | some fault => .error fault
    | none =>
      if path.parts.any Path.hasNull then .error .nullCharacter
      else if path.isTooLong || (names.getLast?).any Path.isTooLongName then
        .error (.nameTooLong path)
      else if files.hasDirectory names then .error (.isDirectory path)
      else .ok (files.put names octets)

end Files

end SchemaMigration
