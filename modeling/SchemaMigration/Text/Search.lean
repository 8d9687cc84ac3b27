import SchemaMigration.Text.Keyword

/-!
# Searching and replacing

Where a recogniser is to be found somewhere inside a text rather than at its start, the
text is walked once from left to right. The recogniser sees the character in front of it,
because whether a word begins at a place depends on that character.

## Main Definitions

* `Text.replaceMatches` - every leftmost match replaced, matches not overlapping
* `Text.occurs` - whether a recogniser succeeds somewhere
* `Text.splitAtMatch?` - the text in front of the first place where a recogniser succeeds,
  and the text from there on
* `Text.splitAtSuffix?` - the shortest beginning whose rest a reader accepts
* `Text.afterAll` - a recogniser applied as long as it succeeds
-/

namespace SchemaMigration.Text

/-- Replaces the leftmost matches of a recogniser that answers with the replacement and the
rest behind the match. The number counts the characters of a match still to be passed
over; a match is never empty. -/
def replaceMatchesFrom (recognise : Option Char → Text → Option (Text × Text)) :
    Option Char → Nat → Text → Text
  | _, _, [] => []
  | _, skipped + 1, c :: text => replaceMatchesFrom recognise (some c) skipped text
  | previous, 0, c :: text =>
    match recognise previous (c :: text) with
    | some (replacement, rest) =>
      replacement ++ replaceMatchesFrom recognise (some c) (text.length - rest.length) text
    | none => c :: replaceMatchesFrom recognise (some c) 0 text

/-- Replaces every leftmost match of a recogniser by what it answers with. -/
def replaceMatches (recognise : Option Char → Text → Option (Text × Text)) (text : Text) :
    Text :=
  replaceMatchesFrom recognise none 0 text

/-- Whether a recogniser succeeds somewhere behind the given character. -/
def occursFrom (recognise : Option Char → Text → Bool) : Option Char → Text → Bool
  | _, [] => false
  | previous, c :: text => recognise previous (c :: text) || occursFrom recognise (some c) text

/-- Whether a recogniser succeeds at some place of a text. -/
def occurs (recognise : Option Char → Text → Bool) (text : Text) : Bool :=
  occursFrom recognise none text

/-- The text in front of the first place where a recogniser succeeds, and from there on. -/
def splitAtMatchFrom? (recognise : Option Char → Text → Bool) :
    Option Char → Text → Option (Text × Text)
  | _, [] => none
  | previous, c :: text =>
    if recognise previous (c :: text) then some ([], c :: text)
    else (splitAtMatchFrom? recognise (some c) text).map fun (head, rest) => (c :: head, rest)

/-- The text in front of the first place where a recogniser succeeds, and from there on. -/
def splitAtMatch? (recognise : Option Char → Text → Bool) (text : Text) :
    Option (Text × Text) :=
  splitAtMatchFrom? recognise none text

/-- The shortest beginning of a text such that `read` accepts all that follows it, and what
`read` made of that. -/
def splitAtSuffix? {α : Type} (read : Text → Option α) : Text → Option (Text × α)
  | [] => (read []).map fun a => ([], a)
  | c :: text =>
    match read (c :: text) with
    | some a => some ([], a)
    | none => (splitAtSuffix? read text).map fun (head, a) => (c :: head, a)

/-- The rest behind at most the given number of successes of a recogniser. -/
def afterAtMost (step : Text → Option Text) : Nat → Text → Text
  | 0, text => text
  | count + 1, text =>
    match step text with
    | some rest => afterAtMost step count rest
    | none => text

/-- The rest behind all successes in a row of a recogniser that always consumes. -/
def afterAll (step : Text → Option Text) (text : Text) : Text := afterAtMost step text.length text

end SchemaMigration.Text
