import SchemaMigration.Pattern.Basic
import SchemaMigration.Text.Numeral
import SchemaMigration.Text.Quoted

/-!
# Faulty patterns

Why a text is no pattern, and where in the text that shows.

## Main Definitions

* `PatternCause` - what is wrong, and how it is reported
* `PatternFault` - what is wrong and where
* `PatternFault.message` - the fault in words
-/

namespace SchemaMigration

open Text

/-- What is wrong with a pattern. -/
inductive PatternCause
  | endsInBackslash
  | incompleteEscape (escape : Text)
  | badEscape (escape : Text)
  | octalTooLarge (escape : Text)
  | missingBrace
  | undefinedCharacter (name : Text)
  | missingName (what : Text)
  | unterminatedName (terminator : Char)
  | openGroup
  | unknownGroup (number : Nat)
  | groupOfSameLookBehind
  | unterminatedSet
  | badRange (first last : Text)
  | leastAboveMost
  | nothingToRepeat
  | multipleRepeat
  | unexpectedEnd
  | badGroupName (name : Text)
  | unknownGroupName (name : Text)
  | repeatedGroupName (name : Text) (number earlier : Nat)
  | unknownExtension (text : Text)
  | unterminatedComment
  | unterminatedGroup
  | badGroupNumber
  | tooManyBranches
  | flagsNotAtStart
  | localeFlag
  | incompatibleFlags
  | unknownFlag
  | missingFlagsEnd
  | missingFlag
  | missingColon
  | globalFlagOn
  | classFlagOff
  | globalFlagOff
  | flagOnAndOff
  | unbalanced
  | variableLookBehind
  /-- A look-behind begins further back than can be counted. -/
  | farLookBehind
  /-- A look-behind begins further back than a plan can hold. -/
  | unheldLookBehind
  /-- A repetition stands where repetitions are forbidden. -/
  | forbiddenRepetition (mode : Mode)
  /-- Both the flag for ASCII classes and the one for full classes are on. -/
  | conflictingClasses
  /-- A number of rounds has too many digits. -/
  | countTooLong (digits : Nat)
  /-- A number of rounds or a code point is too great to be held. -/
  | overflow
  /-- Groups enclose each other too deeply. -/
  | nesting
  deriving DecidableEq

/-- A way of repeating as messages name it. -/
def Mode.word : Mode → Text
  | greedy => "MAX_REPEAT"
  | lazy => "MIN_REPEAT"
  | possessive => "POSSESSIVE_REPEAT"

/-- What is wrong, in words. -/
def PatternCause.words : PatternCause → Text
  | endsInBackslash => "bad escape (end of pattern)"
  | incompleteEscape escape => "incomplete escape " ++ escape
  | badEscape escape => "bad escape " ++ escape
  | octalTooLarge escape =>
    "octal escape value " ++ escape ++ " outside of range 0-0o377"
  | missingBrace => "missing \x7b"
  | undefinedCharacter name => "undefined character name " ++ quoted name
  | missingName what => "missing " ++ what
  | unterminatedName terminator => "missing " ++ [terminator] ++ ", unterminated name"
  | openGroup => "cannot refer to an open group"
  | unknownGroup number => "invalid group reference " ++ ofNat number
  | groupOfSameLookBehind =>
    "cannot refer to group defined in the same lookbehind subpattern"
  | unterminatedSet => "unterminated character set"
  | badRange first last => "bad character range " ++ first ++ "-" ++ last
  | leastAboveMost => "min repeat greater than max repeat"
  | nothingToRepeat => "nothing to repeat"
  | multipleRepeat => "multiple repeat"
  | unexpectedEnd => "unexpected end of pattern"
  | badGroupName name => "bad character in group name " ++ quoted name
  | unknownGroupName name => "unknown group name " ++ quoted name
  | repeatedGroupName name number earlier =>
    "redefinition of group name " ++ quoted name ++ " as group " ++ ofNat number ++
      "; was group " ++ ofNat earlier
  | unknownExtension text => "unknown extension ?" ++ text
  | unterminatedComment => "missing ), unterminated comment"
  | unterminatedGroup => "missing ), unterminated subpattern"
  | badGroupNumber => "bad group number"
  | tooManyBranches => "conditional backref with more than two branches"
  | flagsNotAtStart => "global flags not at the start of the expression"
  | localeFlag => "bad inline flags: cannot use 'L' flag with a str pattern"
  | incompatibleFlags => "bad inline flags: flags 'a', 'u' and 'L' are incompatible"
  | unknownFlag => "unknown flag"
  | missingFlagsEnd => "missing -, : or )"
  | missingFlag => "missing flag"
  | missingColon => "missing :"
  | globalFlagOn => "bad inline flags: cannot turn on global flag"
  | classFlagOff => "bad inline flags: cannot turn off flags 'a', 'u' and 'L'"
  | globalFlagOff => "bad inline flags: cannot turn off global flag"
  | flagOnAndOff => "bad inline flags: flag turned on and off"
  | unbalanced => "unbalanced parenthesis"
  | variableLookBehind => "look-behind requires fixed-width pattern"
  | farLookBehind => "looks too much behind"
  | unheldLookBehind => "look-behind too long"
  | forbiddenRepetition mode =>
    "internal: unsupported template operator " ++ mode.word
  | conflictingClasses => "ASCII and UNICODE flags are incompatible"
  | countTooLong digits => tooManyDigits (some digits)
  | overflow => "number too great"
  | nesting => "too many groups within each other"

namespace PatternCause

/-- Whether a cause is a failure of reading itself, which messages do not explain. -/
def isUnexplained : PatternCause → Bool
  | overflow | unheldLookBehind | nesting => true
  | _ => false

/-- Whether a cause is reported without what the pattern is for. -/
def isPlain : PatternCause → Bool
  | conflictingClasses | countTooLong _ => true
  | _ => false

end PatternCause

/-- What is wrong with a pattern, and how many characters stand in front of the place where
that shows; some faults have no place. -/
structure PatternFault where
  cause : PatternCause
  position : Option Nat
  deriving DecidableEq

/-- A fault of the given pattern in words. Line and column are given where the pattern has
more than one line. -/
def PatternFault.message (fault : PatternFault) (pattern : Text) : Text :=
  match fault.position with
  | none => fault.cause.words
  | some position =>
    let found := fault.cause.words ++ " at position " ++ ofNat position
    if '\n' ∈ pattern then
      let before := lines (pattern.take position)
      let column := (before.getLast?.getD []).length + 1
      found ++ " (line " ++ ofNat before.length ++ ", column " ++ ofNat column ++ ")"
    else found

end SchemaMigration
