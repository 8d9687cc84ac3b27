import SchemaMigration.Text.Keyword

/-!
# Kinds of schema objects

A definition creates, alters or drops a table, a view or a routine.

## Main Definitions

* `RoutineKind` - procedures, functions and triggers
* `ObjectKind` - what a definition is about
* `Verb` - what it does to it

## Design Notes

Keywords are recognised ignoring letter case, but a kind is the upper case of its spelling.
The dotted capital I spells an `I` and has no other upper case, so `VİEW` is recognised and
is no `VIEW`: such a spelling is a kind of its own, and it is treated as a routine.
-/

namespace SchemaMigration

/-- What kind of stored program a routine is. -/
inductive RoutineKind
  | procedure
  | function
  | trigger
  /-- An upper-case spelling that is none of the three keywords. -/
  | unusual (spelling : Text)
  deriving DecidableEq

namespace RoutineKind

/-- The keyword of a kind in upper case. -/
def word : RoutineKind → Text
  | procedure => "PROCEDURE"
  | function => "FUNCTION"
  | trigger => "TRIGGER"
  | unusual spelling => spelling

/-- The kind that a keyword in any letter case names. -/
def ofSpelling (spelling : Text) : RoutineKind :=
  let word := Text.upper spelling
  if word = "PROCEDURE".toList then procedure
  else if word = "FUNCTION".toList then function
  else if word = "TRIGGER".toList then trigger
  else unusual word

/-- The keyword of a kind in lower case, as messages have it. -/
def label (kind : RoutineKind) : Text := Text.lower kind.word

end RoutineKind

/-- What kind of object a definition is about. -/
inductive ObjectKind
  | table
  | view
  | routine (kind : RoutineKind)
  deriving DecidableEq

namespace ObjectKind

/-- The keyword of a kind in upper case. -/
def word : ObjectKind → Text
  | table => "TABLE"
  | view => "VIEW"
  | routine kind => kind.word

/-- The kind that a keyword in any letter case names. -/
def ofSpelling (spelling : Text) : ObjectKind :=
  let word := Text.upper spelling
  if word = "TABLE".toList then table
  else if word = "VIEW".toList then view
  else routine (.ofSpelling spelling)

/-- The keyword of a kind in lower case, as messages have it. -/
def label (kind : ObjectKind) : Text := Text.lower kind.word

/-- The keywords of all kinds. -/
def keywords : List Text := ["TABLE", "VIEW", "TRIGGER", "PROCEDURE", "FUNCTION"]

end ObjectKind

/-- What a definition does to its object. -/
inductive Verb
  | create
  | alter
  | drop
  deriving DecidableEq

namespace Verb

/-- The keyword of a verb. -/
def word : Verb → Text
  | create => "CREATE"
  | alter => "ALTER"
  | drop => "DROP"

/-- All verbs. -/
def all : List Verb := [create, alter, drop]

end Verb

end SchemaMigration
