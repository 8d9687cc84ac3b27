import SchemaMigration.ObjectKind

/-!
# Routines

Procedures, functions and triggers. They are compared as a whole: any change drops and
re-creates them.

## Main Definitions

* `Routine` - a stored routine
* `Routine.key` - what tells the routines of a schema apart
* `Routine.signature` - what two routines are compared by
* `Routine.dropStatement`, `Routine.createStatement` - the statements about a routine
-/

namespace SchemaMigration

open Text

/-- A stored procedure, function or trigger. -/
structure Routine where
  name : Text
  kind : RoutineKind
  parameters : Text
  /-- The clauses between parameters and body; for a trigger, when it runs. -/
  characteristics : List Text
  body : Text
  definer : Text
  /-- The definition behind the keyword of its kind. -/
  source : Text
  deriving DecidableEq

namespace Routine

/-- What tells the routines of a schema apart. -/
def key (routine : Routine) : RoutineKind × Text := (routine.kind, routine.name)

/-- The characteristics with single spaces between them. -/
def options (routine : Routine) : Text := join " " routine.characteristics

/-- What two routines are compared by. -/
structure Signature where
  parameters : Text
  options : Text
  body : Text
  deriving DecidableEq

/-- The signature of a routine; layout and the case of characteristics do not matter. -/
def signature (routine : Routine) : Signature where
  parameters := squash routine.parameters
  options := upper (squash routine.options)
  body := squash routine.body

/-- The statement that drops a routine. -/
def dropStatement (routine : Routine) : Text :=
  "DROP " ++ routine.kind.word ++ " " ++ routine.name ++ ";"

/-- The statement that creates a routine for the current user, between directives that set
another delimiter, since its body has semicolons. -/
def createStatement (routine : Routine) : Text :=
  "DELIMITER ;;\nCREATE DEFINER=CURRENT_USER " ++ routine.kind.word ++ " " ++ routine.source ++
    ";;\nDELIMITER ;"

end Routine

end SchemaMigration
