import SchemaMigration.Text.Basic

/-!
# Places in a YAML text

A reader of YAML needs to know at which column of which line it stands, since indentation
carries the structure. A cursor is the text still to be read together with its place.

## Main Definitions

* `Fault` - why a text is no YAML document
* `Cursor` - the text still to be read, and its place
* `Cursor.skip`, `Cursor.skipWhile`, `Cursor.lineBreak?` - passing over characters
* `isBreak`, `isGap` - what ends a line, and what ends a word
-/

namespace SchemaMigration.Yaml

open Text

/-- Why a text is no YAML document. -/
inductive Fault
  /-- The text has a character that no document may have. -/
  | character
  /-- A token is malformed or stands where none of its kind may. -/
  | token
  /-- The tokens do not form a document. -/
  | grammar
  /-- An anchor is missing or defined twice, or there are several documents. -/
  | reference
  /-- A node stands for no value of its type. -/
  | node
  /-- A numeral, a date or an escape is out of its range; the message says how. -/
  | range (message : Text)
  /-- A number is too great to be computed with. -/
  | overflow
  /-- A numeral has neither digits nor a sign. -/
  | emptyNumeral
  /-- A text is no word for a truth value. -/
  | noTruthValue
  /-- A text is no date. -/
  | noDate
  /-- A date is written as the own value of a mapping. -/
  | mappedDate
  /-- Nodes are nested without an end, or too deeply. -/
  | depth
  deriving DecidableEq

/-- Whether a character ends a line. -/
def isBreak (c : Char) : Bool :=
  c == '\n' || c == '\r' || c == '\u0085' || c == '\u2028' || c == '\u2029'

/-- Whether a line ends here. -/
def isLineEnd : Option Char → Bool
  | none => true
  | some c => isBreak c

/-- Whether a word ends here: at a space, a tab, or the end of a line. -/
def isGap : Option Char → Bool
  | some ' ' | some '\t' => true
  | next => isLineEnd next

/-- Whether a document may have a character. -/
def isPrintable (c : Char) : Bool :=
  c == '\t' || c == '\n' || c == '\r' || (' ' ≤ c && c ≤ '~') || c == '\u0085' ||
  ('\u00a0' ≤ c && c ≤ '\ufffd') || '\uffff' < c

/-- Whether a name of an anchor, a directive or a tag handle may have a character. -/
def isNameCharacter (c : Char) : Bool := c.isAlphanum || c == '-' || c == '_'

/-- The value of a hexadecimal digit. -/
def hexadecimalValue? (c : Char) : Option Nat :=
  if '0' ≤ c && c ≤ '9' then some (c.toNat - 48)
  else if 'a' ≤ c && c ≤ 'f' then some (c.toNat - 87)
  else if 'A' ≤ c && c ≤ 'F' then some (c.toNat - 55)
  else none

/-- The number that so many hexadecimal digits spell. -/
def hexadecimalNumber? (count : Nat) (text : Text) : Option Nat := do
  let digits ← (text.take count).mapM hexadecimalValue?
  if digits.length = count then some (digits.foldl (fun n digit => 16 * n + digit) 0) else none

/-- The text still to be read, and its place. -/
structure Cursor where
  rest : Text
  /-- The number of characters in front. -/
  index : Nat
  line : Nat
  column : Nat

namespace Cursor

/-- The beginning of a text; a byte order mark there is passed over. -/
def start : Text → Cursor
  | '\ufeff' :: text => ⟨text, 1, 0, 0⟩
  | text => ⟨text, 0, 0, 0⟩

/-- The next character. -/
def next? (cursor : Cursor) : Option Char := cursor.rest.head?

/-- The character the given number of places behind the next. -/
def ahead? (cursor : Cursor) (count : Nat) : Option Char := cursor.rest[count]?

/-- The place behind the next character. -/
def skip (cursor : Cursor) : Cursor :=
  match cursor.rest with
  | [] => cursor
  | c :: rest =>
    let index := cursor.index + 1
    if isBreak c && ! (c == '\r' && rest.head? == some '\n') then
      ⟨rest, index, cursor.line + 1, 0⟩
    else if c == '\ufeff' then ⟨rest, index, cursor.line, cursor.column⟩
    else ⟨rest, index, cursor.line, cursor.column + 1⟩

/-- The place the given number of characters further on. -/
def skipMany (cursor : Cursor) : Nat → Cursor
  | 0 => cursor
  | count + 1 => cursor.skip.skipMany count

/-- The longest run of characters that pass a test. -/
def run (cursor : Cursor) (accepts : Char → Bool) : Text := cursor.rest.takeWhile accepts

/-- The place behind the longest run of characters that pass a test. -/
def skipWhile (cursor : Cursor) (accepts : Char → Bool) : Cursor :=
  cursor.skipMany (cursor.run accepts).length

/-- The place behind the spaces that stand here. -/
def skipSpaces (cursor : Cursor) : Cursor := cursor.skipWhile (· == ' ')

/-- The place behind a comment, if one begins here. -/
def skipComment (cursor : Cursor) : Cursor :=
  if cursor.next? = some '#' then cursor.skipWhile (! isBreak ·) else cursor

/-- What a line break stands for in a scalar, and the place behind it. The line and the
paragraph separator stand for themselves, every other break for a line feed. -/
def lineBreak? (cursor : Cursor) : Option (Char × Cursor) :=
  match cursor.rest with
  | '\r' :: '\n' :: _ => some ('\n', cursor.skipMany 2)
  | c :: _ =>
    if c == '\u2028' || c == '\u2029' then some (c, cursor.skip)
    else if isBreak c then some ('\n', cursor.skip)
    else none
  | [] => none

/-- Whether a marker of three characters that bounds documents stands here. -/
def isAtMarker (cursor : Cursor) (marker : Text) : Bool :=
  startsWith marker cursor.rest && isGap (cursor.ahead? 3)

/-- Whether a document ends or another begins here. -/
def isAtBoundary (cursor : Cursor) : Bool :=
  cursor.isAtMarker "---" || cursor.isAtMarker "..."

end Cursor

end SchemaMigration.Yaml
