import SchemaMigration.Text.LetterCase

/-!
# Keywords

Recognisers for keywords written in any letter case. A keyword is given in upper-case
ASCII; besides the two cases of each letter, the long s spells `S`, the Kelvin sign spells
`K`, and the dotted capital and the dotless small i spell `I`.

## Main Definitions

* `Text.spells` - whether a character spells a letter of a keyword
* `Text.keyword?`, `Text.keywords?` - a keyword, or several with blanks between them
* `Text.anyKeyword?` - the first of several keywords that stands in front
* `Text.afterKeyword?` - a keyword behind at least one blank
* `Text.assignment?` - a keyword, an equals sign and a word

## Design Notes

Each character of a keyword is spelled by exactly one character, so the spelling that was
read has the length of the keyword, whatever its letters.
-/

namespace SchemaMigration.Text

/-- Whether a character spells the given upper-case ASCII character, letter case ignored. -/
def spells (letter c : Char) : Bool :=
  c == letter || c == letter.toLower ||
  (letter == 'S' && c == '\u017F') || (letter == 'K' && c == '\u212A') ||
  (letter == 'I' && (c == '\u0130' || c == '\u0131'))

/-- The rest behind a keyword. -/
def keyword? : (keyword text : Text) → Option Text
  | [], text => some text
  | _ :: _, [] => none
  | letter :: keyword, c :: text => if spells letter c then keyword? keyword text else none

/-- The rest behind keywords with at least one blank between each two. -/
def keywords? : List Text → Text → Option Text
  | [], text => some text
  | [keyword], text => keyword? keyword text
  | keyword :: keywords, text => do keywords? keywords (← blanks? (← keyword? keyword text))

/-- The rest behind the first of the keywords that stands in front. -/
def anyKeyword? (keywords : List Text) (text : Text) : Option Text :=
  keywords.findSome? (keyword? · text)

/-- The rest behind at least one blank and a keyword. -/
def afterKeyword? (keyword text : Text) : Option Text := do keyword? keyword (← blanks? text)

/-- The rest behind a keyword that is not the beginning of a longer word. -/
def wholeKeyword? (keyword text : Text) : Option Text :=
  (keyword? keyword text).filter endsWord

/-- The word behind a keyword and an equals sign, with any blanks around the sign; and the
rest. -/
def assignment? (keyword text : Text) : Option (Text × Text) := do
  let rest ← after? "=" (trimLeft (← keyword? keyword text))
  word? (trimLeft rest)

end SchemaMigration.Text
