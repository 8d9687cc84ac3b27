import SchemaMigration.Journal
import SchemaMigration.Pattern.Substitution

/-!
# Events

A comparison may break off where a pattern cannot be applied. Its course is a list of events;
whether and where it breaks off is read from that list, so the functions that compute what is
compared stay total.

## Main Definitions

* `Event` - what happens on the course of a comparison
* `Event.ofJournal`, `Event.ofResult` - notes, and what may break off, as events
* `Event.notesUntilBreak`, `Event.breakage?` - the notes that are taken, and why it breaks off
-/

namespace SchemaMigration

/-- What happens on the course of a comparison. -/
inductive Event
  | note (note : Note)
  /-- The comparison cannot go on. -/
  | break (breakage : Breakage)
  deriving DecidableEq

namespace Event

/-- Notes as events. -/
def ofJournal (journal : Journal) : List Event := journal.map .note

/-- What happens where a result is needed. -/
def ofResult {α : Type} : Except Breakage α → List Event
  | .ok _ => []
  | .error breakage => [.break breakage]

/-- The notes taken before a comparison breaks off, or all of them if it does not. -/
def notesUntilBreak : List Event → Journal
  | [] => []
  | .note n :: events => n :: notesUntilBreak events
  | .break _ :: _ => []

/-- Why a comparison breaks off, if it does. -/
def breakage? : List Event → Option Breakage
  | [] => none
  | .note _ :: events => breakage? events
  | .break breakage :: _ => some breakage

end Event

end SchemaMigration
