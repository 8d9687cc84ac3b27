/-!
# Text

Everything this library reads and writes is text: dumps, definitions, statements,
reports. Text is kept as the list of its characters, so that a scanner is a recursion
over its input and a law about it an induction.

## Main Definitions

* `Text` - a list of characters; string literals coerce to it
* `Text.join` - texts with a separator between them
* `Text.splitWhere`, `Text.lines` - the pieces between separators, empty ones kept
* `Text.visibleLines` - the pieces between line boundaries of every kind
* `Text.before` - what a scanner consumed, from its input and what it left

## Design Notes

A recogniser has the type `Text → Option Text` and answers with the rest behind what it
recognised. Recognisers compose by `Option`'s bind, and the consumed part is recovered
with `Text.before`, so no recogniser carries positions.
-/

namespace SchemaMigration

/-- Text, held as its characters. -/
abbrev Text := List Char

instance : Coe String Text := ⟨String.toList⟩

/-- Texts that a comparison finds equal are the same text. -/
instance Text.lawfulBEq : LawfulBEq Text := inferInstance

namespace Text

/-- The decimal numeral of a natural number. -/
def ofNat (n : Nat) : Text := Nat.toDigits 10 n

/-- The decimal numeral of an integer, with a minus sign in front of a negative one. -/
def ofInt : Int → Text
  | .ofNat n => ofNat n
  | .negSucc n => '-' :: ofNat (n + 1)

/-- The texts in order, with the separator between each two of them. -/
def join (separator : Text) : List Text → Text
  | [] => []
  | [piece] => piece
  | piece :: pieces => piece ++ separator ++ join separator pieces

/-- Whether a text begins with the given beginning. -/
def startsWith (beginning text : Text) : Bool := beginning.isPrefixOf text

/-- Whether a text ends with the given ending. -/
def endsWith (ending text : Text) : Bool := ending.isSuffixOf text

/-- What follows the given beginning, if the text begins with it. -/
def after? : (beginning text : Text) → Option Text
  | [], text => some text
  | _ :: _, [] => none
  | b :: beginning, c :: text => if b = c then after? beginning text else none

/-- Whether a part occurs anywhere in a text. -/
def occursIn (part : Text) : Text → Bool
  | [] => part.isEmpty
  | c :: text => startsWith part (c :: text) || occursIn part text

/-- What stands in front of a rest: the part of `text` that a scanner consumed when `rest`
is what it left. -/
def before (text rest : Text) : Text := text.take (text.length - rest.length)

/-- The text up to the first occurrence of `mark` and what follows that occurrence. -/
def splitAtFirst? (mark : Text) : Text → Option (Text × Text)
  | [] => if mark.isEmpty then some ([], []) else none
  | c :: text =>
    match after? mark (c :: text) with
    | some rest => some ([], rest)
    | none => (splitAtFirst? mark text).map fun (head, rest) => (c :: head, rest)

/-- The pieces of a text between the characters that satisfy `p`; never the empty list. -/
def splitWhere (p : Char → Bool) : Text → List Text
  | [] => [[]]
  | c :: text =>
    if p c then [] :: splitWhere p text
    else match splitWhere p text with
      | [] => [[c]]
      | piece :: pieces => (c :: piece) :: pieces

/-- The pieces of a text between its newlines; a final newline is followed by an empty
piece. -/
def lines (text : Text) : List Text := splitWhere (· == '\n') text

/-- The lines joined by newlines. -/
def unlines (pieces : List Text) : Text := join ['\n'] pieces

/-- The text without the characters `c` at its end. -/
def dropTrailing (c : Char) (text : Text) : Text :=
  (text.reverse.dropWhile (· == c)).reverse

/-- Whether a character ends a line for a reader that knows every kind of line boundary:
line feed, vertical tab, form feed, carriage return, the three information separators,
next line, and the line and paragraph separators. -/
def isLineBoundary (c : Char) : Bool :=
  (0x0A ≤ c.toNat && c.toNat ≤ 0x0D) || (0x1C ≤ c.toNat && c.toNat ≤ 0x1E) ||
  c.toNat == 0x85 || c.toNat == 0x2028 || c.toNat == 0x2029

/-- A carriage return and the line feed after it as one line feed. -/
def unifyNewlines : Text → Text
  | '\r' :: '\n' :: text => '\n' :: unifyNewlines text
  | c :: text => c :: unifyNewlines text
  | [] => []

/-- The pieces between line boundaries of every kind; a final boundary opens no further
piece, and the empty text has none. -/
def visibleLines (text : Text) : List Text :=
  let pieces := splitWhere isLineBoundary (unifyNewlines text)
  if pieces.getLast? = some [] then pieces.dropLast else pieces

/-- The first of the pieces between line boundaries. -/
def firstVisibleLine (text : Text) : Text := (visibleLines text).headD []

end Text

end SchemaMigration
