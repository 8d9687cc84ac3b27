import SchemaMigration.Pattern.Basic
import SchemaMigration.Text.LetterCase

/-!
# Tests of one character

A part of a pattern that reads one character tests it. Where letter case is ignored the
character is tested in lower case, unless the part names nothing that has case.

## Main Definitions

* `Folding` - how case is removed
* `CharacterTest` - a test of one character
* `CharacterTest.accepts` - whether a character passes
* `CharacterTest.ofCharacter`, `CharacterTest.ofSet` - the tests that a pattern asks for

## Design Notes

The characters of a set up to U+FFFF stand for all that differ from them by case alone. One
beyond stands for its lower case only if it is part of a range; a single one stands for
itself, so that a capital letter among them is never found in lower case.
-/

namespace SchemaMigration

open Text

/-- How case is removed before characters are compared. -/
inductive Folding
  | exact
  /-- Only the letters of ASCII have case. -/
  | ascii
  | full
  deriving DecidableEq

namespace Folding

/-- The folding that flags ask for. -/
def ofFlags (flags : Flags) : Folding :=
  if ! flags.has 'i' then exact else if flags.has 'a' then ascii else full

/-- A character with case removed. -/
def fold : Folding → Char → Char
  | exact, c => c
  | ascii, c => c.toLower
  | full, c => lowerCharacter c

/-- The code point of a character with case removed; a code point without a character stays. -/
def foldCode (folding : Folding) (code : Nat) : Nat :=
  if code.isValidChar then (folding.fold (Char.ofNat code)).toNat else code

/-- Whether case has to be removed of any character between two code points. -/
def changesBetween (first last : Nat) : Folding → Bool
  | exact => false
  | ascii => (first ≤ 0x5A && 0x41 ≤ last) || (first ≤ 0x7A && 0x61 ≤ last)
  | full => hasCasedBetween first last

/-- Whether two characters are the same with case removed. -/
def same (folding : Folding) (c d : Char) : Bool := folding.fold c == folding.fold d

/-- The further characters that a character without case may stand for. -/
def variants : Folding → Char → List Char
  | full, c => caseVariants c
  | _, _ => []

/-- The characters that a character without case may come from. -/
def sources : Folding → Char → List Char
  | exact, c => [c]
  | ascii, c => [c, c.toUpper]
  | full, c => (c :: caseVariants c).flatMap lowerSources

end Folding

/-- The last code point for which sets ignore case in all ways. -/
def lastShortCode : Nat := 0xFFFF

/-- A test of one character. -/
inductive CharacterTest
  | any
  | notNewline
  /-- The character of a code point, or any other. -/
  | single (folding : Folding) (negated : Bool) (code : Nat)
  /-- The characters of a set, or all others; `isAscii` limits its categories. -/
  | set (folding : Folding) (isAscii negated : Bool) (items : List ClassItem)
  deriving DecidableEq

/-- Whether a character is in a category. -/
def Category.has (isAscii : Bool) (c : Char) : Category → Bool
  | digit => if isAscii then c.isDigit else isDigit c
  | blank => if isAscii then c == ' ' || (9 ≤ c.toNat && c.toNat ≤ 13) else isBlank c
  | word => if isAscii then c.isAlphanum || c == '_' else isWordCharacter c

namespace ClassItem

/-- Whether a code point lies between two others. -/
def isBetween (first last : Nat) (c : Char) : Bool := first ≤ c.toNat && c.toNat ≤ last

/-- Whether a part of a set has a character, of which case has been removed. -/
def has (folding : Folding) (isAscii : Bool) (c : Char) : ClassItem → Bool
  | single code =>
    if folding = .exact || lastShortCode < code then c.toNat == code
    else
      let folded := folding.foldCode code
      c.toNat == folded || (folding.variants c).any (·.toNat == folded)
  | range first last =>
    if folding = .exact then isBetween first last c
    else
      (folding.sources c).any (isBetween first (min last lastShortCode)) ||
        (lastShortCode < last &&
          (isBetween first last c || ((upperCharacter c).take 1).any (isBetween first last)))
  | category kind negated => kind.has isAscii c != negated

/-- Whether a part of a set makes it necessary to remove case. -/
def hasCase (folding : Folding) : ClassItem → Bool
  | single code => lastShortCode < code || folding.changesBetween code code
  | range first last => lastShortCode < last || folding.changesBetween first last
  | category _ _ => false

end ClassItem

namespace CharacterTest

/-- Whether a character passes a test. -/
def accepts (c : Char) : CharacterTest → Bool
  | any => true
  | notNewline => c != '\n'
  | single folding negated code => ((folding.fold c).toNat == code) != negated
  | set folding isAscii negated items =>
    items.any (·.has folding isAscii (folding.fold c)) != negated

/-- The test for a character of a pattern, or for any other character. -/
def ofCharacter (flags : Flags) (negated : Bool) (code : Nat) : CharacterTest :=
  let folding := Folding.ofFlags flags
  let folded := folding.foldCode code
  if ! folding.changesBetween code code then single .exact negated code
  else if (folding.variants (Char.ofNat folded)).isEmpty then single folding negated folded
  else set folding (flags.has 'a') negated [.single folded]

/-- The test for a set of characters of a pattern. -/
def ofSet (flags : Flags) (negated : Bool) (items : List ClassItem) : CharacterTest :=
  let folding := Folding.ofFlags flags
  set (if items.any (·.hasCase folding) then folding else .exact) (flags.has 'a') negated items

/-- The test for any character of a pattern. -/
def ofAny (flags : Flags) : CharacterTest := if flags.has 's' then any else notNewline

/-- Whether a test looks at a character as it is. -/
def isExact : CharacterTest → Bool
  | single folding negated _ => folding = .exact && ! negated
  | set folding _ _ _ => folding = .exact
  | _ => false

/-- The code point of the only character that passes a test, if the test looks at characters
as they are. -/
def onlyCode? : CharacterTest → Option Nat
  | single .exact false code => some code
  | _ => none

/-- Whether a test is for a set with case removed. -/
def isFoldedSet : CharacterTest → Bool
  | set folding _ _ _ => folding != .exact
  | _ => false

end CharacterTest

end SchemaMigration
