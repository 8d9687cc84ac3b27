import SchemaMigration.Dump.Comment

/-!
# Statements of a dump

Statement text is cut into statements line by line. A statement ends with the line that
ends in the delimiter in force; a `DELIMITER` directive, alone on its line, sets it.

## Main Definitions

* `Dump.delimiterDirective?` - the delimiter that a line sets
* `Dump.statements` - the statements of a text, in order

## Design Notes

A semicolon stays with its statement; a delimiter that was set by a directive does not,
because it belongs to the client and not to the routine it ends.
-/

namespace SchemaMigration.Dump

open Text

/-- The delimiter in force at the start of a text. -/
def semicolon : Text := ";"

/-- The delimiter that a trimmed line sets. -/
def delimiterDirective? (line : Text) : Option Text := do
  let (delimiter, rest) ← word? (← blanks? (← keyword? "DELIMITER" line))
  if isBlankText rest then some delimiter else none

/-- Whether a trimmed line separates statements where none is open: it is empty, has only
semicolons, or is the delimiter itself. -/
def isSeparator (delimiter line : Text) : Bool :=
  line == delimiter || line.all (· == ';')

/-- The lines of a statement that its delimiter ended; only a semicolon is kept. -/
def closeStatement (delimiter : Text) (held : List Text) : Text :=
  let statement := unlines held
  if delimiter = semicolon then statement
  else
    let ended := trimRight statement
    trimRight (ended.take (ended.length - delimiter.length))

/-- The lines of a statement that no delimiter ended, if there is one. -/
def flushStatement (held : List Text) : List Text :=
  if held.all isBlankText then [] else [unlines held]

/-- The statements in the given lines, behind the lines `held` of an open statement. -/
def statementsFrom (delimiter : Text) (held : List Text) : List Text → List Text
  | [] => flushStatement held
  | line :: rest =>
    let trimmed := trim line
    match delimiterDirective? trimmed with
    | some next => flushStatement held ++ statementsFrom next [] rest
    | none =>
      if held.isEmpty && isSeparator delimiter trimmed then statementsFrom delimiter [] rest
      else
        let lines := held ++ [trimRight line]
        if endsWith delimiter trimmed then
          closeStatement delimiter lines :: statementsFrom delimiter [] rest
        else statementsFrom delimiter lines rest

/-- The statements of a text, in order. -/
def statements (text : Text) : List Text := statementsFrom semicolon [] (lines text)

end SchemaMigration.Dump
