import SchemaMigration.Routine.Basic
import SchemaMigration.Routine.Characteristic
import SchemaMigration.Table.KeyPart
import SchemaMigration.Journal

/-!
# Reading a routine

A trigger is read by its timing, event and table; procedures and functions by their
parameters, characteristics and body.

## Main Definitions

* `RoutineError` - why a text is no routine definition
* `Routine.parse` - the routine that a text defines
* `Routine.notes` - what reading a routine reports
-/

namespace SchemaMigration

open Text

/-- Why a text is no routine definition. -/
inductive RoutineError
  | unreadable (text : Text)
  | unreadableTrigger (text : Text)
  | unreadableParameters (kind : RoutineKind) (text : Text)
  | withoutBody (kind : RoutineKind) (name : Text)
  deriving DecidableEq

namespace RoutineError

/-- What went wrong, in words. -/
def message : RoutineError → Text
  | unreadable _ => "couldn't parse routine definition"
  | unreadableTrigger _ => "couldn't parse trigger definition"
  | unreadableParameters kind _ => "couldn't parse " ++ kind.label ++ " parameter list"
  | withoutBody kind name => kind.label ++ " '" ++ name ++ "' has no body"

/-- The routine that an error is about, if its name was found. -/
def entity : RoutineError → Option Text
  | withoutBody _ name => some name
  | _ => none

/-- The text that could not be read. -/
def text : RoutineError → Option Text
  | unreadable text => some text
  | unreadableTrigger text => some text
  | unreadableParameters _ text => some text
  | withoutBody _ _ => none

end RoutineError

namespace Routine

/-- Whether nothing but blanks and at most two semicolons in a row is left. -/
def isEnd (text : Text) : Bool :=
  let rest := trimLeft text
  isBlankText (((after? ";;" rest) <|> after? ";" rest).getD rest)

/-- The head of a routine definition. -/
structure Head where
  definer : Text
  kind : RoutineKind
  /-- What stands behind the keyword of the kind, without the final semicolons. -/
  rest : Text

/-- The head of a routine definition, if the text has one. -/
def head? (text : Text) : Option Head := do
  let start ← keyword? "CREATE" (trimLeft text)
  let (definer, rest) :=
    ((blanks? start).bind (assignment? "DEFINER")).getD ("CURRENT_USER".toList, start)
  let kind ← blanks? rest
  let rest ← anyKeyword? ["TRIGGER", "PROCEDURE", "FUNCTION"] kind
  let ending? := fun text => if isEnd text then some () else none
  let (source, _) ← splitAtSuffix? ending? (← blanks? rest)
  return { definer, kind := .ofSpelling (before kind rest), rest := trim source }

/-- The order of a trigger with respect to another, and what follows the blanks behind it. -/
def triggerOrder? (text : Text) : Option (Text × Text) := do
  let clause ← blanks? text
  let (_, rest) ← word? (← blanks? (← anyKeyword? ["FOLLOWS", "PRECEDES"] clause))
  return (squash (before clause rest), ← blanks? rest)

/-- The trigger that stands behind its keyword. -/
def trigger? (head : Head) : Option Routine := do
  let (name, rest) ← word? head.rest
  let timing ← blanks? rest
  let rest ← anyKeyword? ["BEFORE", "AFTER"] timing
  let timing := upper (before timing rest)
  let event ← blanks? rest
  let rest ← anyKeyword? ["INSERT", "UPDATE", "DELETE"] event
  let event := upper (before event rest)
  let (table, rest) ← word? (← blanks? (← afterKeyword? "ON" rest))
  let rest ← keywords? ["FOR", "EACH", "ROW"] (← blanks? rest)
  let (order, body) ←
    ((triggerOrder? rest).map fun (order, body) => ([order], body))
    <|> ((blanks? rest).map fun body => ([], body))
  return {
    name
    kind := head.kind
    parameters := []
    characteristics := [join " " ([timing, event, "ON".toList, table] ++ order)]
    body := trim body
    definer := head.definer
    source := head.rest }

/-- The name of a procedure or function, its parameters and what stands behind them. -/
def parameters? (rest : Text) : Option (Text × Text × Text) := do
  let (name, rest) ← name? rest
  let (parameters, rest) ← parenthesised? (← opening? rest)
  return (name, parameters, rest)

/-- The routine that a text defines. -/
def parse (text : Text) : Except RoutineError Routine :=
  match head? text with
  | none => .error (.unreadable (trim text))
  | some head =>
    if head.kind = .trigger then
      match trigger? head with
      | none => .error (.unreadableTrigger (trim text))
      | some trigger => .ok trigger
    else
      match parameters? head.rest with
      | none => .error (.unreadableParameters head.kind (trim text))
      | some (name, parameters, rest) =>
        let (characteristics, body) := characteristicsAndBody rest
        if body.isEmpty then .error (.withoutBody head.kind name)
        else .ok {
          name
          kind := head.kind
          parameters := trim parameters
          characteristics
          body
          definer := head.definer
          source := head.rest }

/-- What reading a routine reports. -/
def notes (text : Text) : Journal :=
  match parse text with
  | .ok routine => [.debug ("parsed " ++ routine.kind.label ++ " " ++ routine.name)]
  | .error _ => []

end Routine

end SchemaMigration
