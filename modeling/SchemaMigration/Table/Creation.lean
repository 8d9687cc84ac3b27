import SchemaMigration.Table.Parser

/-!
# Creating a table

The statement that creates a table is its definition as written, without foreign keys,
which are added once all tables exist, and without the row counter.

## Main Definitions

* `Table.createStatement` - the statement that creates a table
-/

namespace SchemaMigration.Table

open Text

/-- The last line without the comma and blanks at its end, unless it is the only one. -/
def dropLastComma : List Text → List Text
  | [] => []
  | [first] => [first]
  | lines =>
    let last := lines.getLast?.map fun line => dropTrailing ',' (trimRight line)
    lines.dropLast ++ last.toList

/-- The lines of the statement, behind the lines `kept` so far: foreign keys are left out, no
comma is left in front of the closing parenthesis, and the row counter goes. -/
def creationLines (kept : List Text) : List Text → List Text
  | [] => kept
  | line :: rest =>
    match TableLine.ofText (dropTrailing ',' (trim line)) with
    | .foreignKey _ _ _ _ _ => creationLines kept rest
    | .terminator _ => dropLastComma kept ++ (line :: rest).map withoutCounter
    | _ => creationLines (kept ++ [line]) rest

/-- The statement that creates a table without its foreign keys. -/
def createStatement (table : Table) : Text :=
  let kept := match (lines table.definition).filter (! isBlankText ·) with
    | [] => []
    | first :: rest => creationLines [first] rest
  let statement := trimRight (unlines kept)
  if endsWith ";" statement then statement else statement ++ ";"

end SchemaMigration.Table
