import SchemaMigration.Table.Basic

/-!
# Table options

What stands behind the closing parenthesis of a table: storage options, and behind them
possibly a partitioning clause.

## Main Definitions

* `Table.baseOptions`, `Table.partitioning` - the two parts of a table's options
* `Table.hasComment` - whether the options set a comment
* `withoutCounter` - a text without the next value of the row counter
-/

namespace SchemaMigration

open Text

/-- The text behind the blanks in front of a word, if a word may begin there. -/
def atWord? (previous : Option Char) (text : Text) : Option Text :=
  match text with
  | [] => none
  | c :: _ => if isBlank c || startsWord previous then some (trimLeft text) else none

/-- Whether a partitioning clause, with the blanks in front of it, begins here. -/
def opensPartitioning (previous : Option Char) (text : Text) : Bool :=
  (do
    let clause ← atWord? previous text
    (keywords? ["PARTITION", "BY"] clause).filter endsWord).isSome

/-- The setting of the row counter with the blanks in front of it; nothing takes its place. -/
def counterSetting? (previous : Option Char) (text : Text) : Option (Text × Text) := do
  let rest ← digits? (← keyword? "AUTO_INCREMENT=" (← atWord? previous text))
  return ([], rest)

/-- A text without the settings of the row counter. -/
def withoutCounter (text : Text) : Text := replaceMatches counterSetting? text

/-- Whether a comment option with its opening quote begins here. -/
def opensComment (previous : Option Char) (text : Text) : Bool :=
  startsWord previous &&
  (do
    let rest := trimLeft (← keyword? "COMMENT" text)
    after? "'" (trimLeft ((after? "=" rest).getD rest))).isSome

namespace Table

/-- The options in front of the partitioning clause. -/
def baseOptions (table : Table) : Text :=
  match splitAtMatch? opensPartitioning table.options with
  | some (base, _) => trim base
  | none => trim table.options

/-- The partitioning clause, or nothing for a table without one. -/
def partitioning (table : Table) : Text :=
  match splitAtMatch? opensPartitioning table.options with
  | some (_, clause) => trim clause
  | none => []

/-- Whether the options in front of the partitioning clause set a comment. -/
def hasComment (table : Table) : Bool := occurs opensComment table.baseOptions

end Table

end SchemaMigration
