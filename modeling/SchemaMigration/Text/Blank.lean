import SchemaMigration.Text.Basic

/-!
# White space

Blanks are the characters with the Unicode property White_Space and the four information
separators U+001C to U+001F, twenty-nine in all. A zero-width space or a byte order mark
is none of them.

## Main Definitions

* `Text.isBlank` - the character class
* `Text.trim`, `Text.trimLeft`, `Text.trimRight` - a text without the blanks at its ends
* `Text.words`, `Text.squash` - the runs between blanks, and the same joined by one space
* `Text.blanks?` - at least one blank, all of them consumed
-/

namespace SchemaMigration.Text

/-- The ranges of code points of the blanks. -/
def blankRanges : List (Nat × Nat) :=
  [(0x09, 0x0D), (0x1C, 0x20), (0x85, 0x85), (0xA0, 0xA0), (0x1680, 0x1680),
   (0x2000, 0x200A), (0x2028, 0x2029), (0x202F, 0x202F), (0x205F, 0x205F), (0x3000, 0x3000)]

/-- Whether a character is white space. -/
def isBlank (c : Char) : Bool :=
  blankRanges.any fun (first, last) => first ≤ c.toNat && c.toNat ≤ last

/-- A text without the blanks in front. -/
def trimLeft (text : Text) : Text := text.dropWhile isBlank

/-- A text without the blanks at its end. -/
def trimRight (text : Text) : Text := (text.reverse.dropWhile isBlank).reverse

/-- A text without the blanks at its ends. -/
def trim (text : Text) : Text := trimRight (trimLeft text)

/-- Whether a text has no character but blanks. -/
def isBlankText (text : Text) : Bool := text.all isBlank

/-- The maximal runs of characters that are not blanks. -/
def words (text : Text) : List Text := (splitWhere isBlank text).filter (! ·.isEmpty)

/-- The words of a text with one space between them. -/
def squash (text : Text) : Text := join [' '] (words text)

/-- The rest behind one or more blanks, all of which are consumed. -/
def blanks? : Text → Option Text
  | [] => none
  | c :: text => if isBlank c then some (trimLeft text) else none

/-- The longest beginning without blanks and the rest behind it, if that beginning is not
empty. -/
def word? (text : Text) : Option (Text × Text) :=
  let found := text.takeWhile (! isBlank ·)
  if found.isEmpty then none else some (found, text.dropWhile (! isBlank ·))

/-- The longest beginning without blanks and opening parentheses, and the rest behind it,
if that beginning is not empty. -/
def name? (text : Text) : Option (Text × Text) :=
  let inside := fun c => ! isBlank c && c != '('
  let found := text.takeWhile inside
  if found.isEmpty then none else some (found, text.dropWhile inside)

/-- The text from an opening parenthesis on, behind any blanks. -/
def opening? (text : Text) : Option Text :=
  match trimLeft text with
  | '(' :: rest => some ('(' :: rest)
  | _ => none

/-- The text from a leading parenthesis through the first closing one, and the rest. -/
def upToClosing? : Text → Option (Text × Text)
  | '(' :: text =>
    match text.dropWhile (· != ')') with
    | [] => none
    | close :: rest => some ('(' :: text.takeWhile (· != ')') ++ [close], rest)
  | _ => none

/-- A text with one space in front, or nothing for the empty text. -/
def spaced (text : Text) : Text := if text.isEmpty then [] else ' ' :: text

end SchemaMigration.Text
