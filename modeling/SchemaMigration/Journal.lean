import SchemaMigration.Text.Basic

/-!
# Journal

What a run reports about its own course, apart from its result. Results never depend on
the journal: each computation has its result as one function and its notes as another.

## Main Definitions

* `Level`, `Note` - how important a note is, and the note
* `Note.line` - a note as one entry of a log
* `Journal.shown` - the notes at or above a level
-/

namespace SchemaMigration

/-- How important a note is. -/
inductive Level
  | debug
  | info
  | warning
  deriving DecidableEq

namespace Level

/-- The name of a level in a log. -/
def word : Level → Text
  | debug => "DEBUG"
  | info => "INFO"
  | warning => "WARNING"

/-- Levels in order of importance. -/
def rank : Level → Nat
  | debug => 0
  | info => 1
  | warning => 2

end Level

/-- One entry of a journal. -/
structure Note where
  level : Level
  text : Text
  deriving DecidableEq

namespace Note

/-- A note for those who follow every step. -/
def debug (text : Text) : Note := ⟨.debug, text⟩

/-- A note on the course of a run. -/
def info (text : Text) : Note := ⟨.info, text⟩

/-- A note on something that was passed over. -/
def warning (text : Text) : Note := ⟨.warning, text⟩

/-- The note behind its level. -/
def line (note : Note) : Text := note.level.word ++ " " ++ note.text

end Note

/-- Notes in the order in which they were taken. -/
abbrev Journal := List Note

/-- The notes at or above the given level. -/
def Journal.shown (threshold : Level) (journal : Journal) : Journal :=
  journal.filter fun note => threshold.rank ≤ note.level.rank

end SchemaMigration
