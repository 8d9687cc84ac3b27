import SchemaMigration.Pattern.Matcher
import SchemaMigration.Pattern.Parser

/-!
# Substitution

Every match of a pattern is replaced by a template, a text that may refer to the groups of
the match.

## Main Definitions

* `Piece`, `Template` - the parts of a template
* `Template.parse` - the template that a text is for a pattern
* `Breakage` - why matches cannot be replaced
* `Pattern.substitute` - a text with all matches replaced

## Design Notes

Matches do not overlap. An empty match counts also directly behind another match, but where
one was found the next match at the same place must not be empty. A template without groups
is put in place of a match without looking at it.
-/

namespace SchemaMigration

open Text

/-- A part of a template. -/
inductive Piece
  | literal (text : Text)
  | group (number : Nat)
  deriving DecidableEq

/-- A text with references to groups. -/
abbrev Template := List Piece

namespace Template

open Reader

/-! ## Reading -/

/-- The reference to a group by its number; `back` is how far back the number begins. -/
def groupPiece (pattern : Pattern) (number back : Nat) : Reader Piece := do
  if pattern.groupCount < number then fail (.unknownGroup number) back
  return .group number

/-- The group that stands between angle brackets, by name or number. -/
def namedPiece (pattern : Pattern) : Reader Piece := do
  if ! (← accept '<') then fail (.missingName "<") 0
  let name ← readName '>' "group name"
  let back := name.length + 1
  if isIdentifier name then
    match pattern.names.lookup name with
    | some number => groupPiece pattern number back
    | none => fail (.unknownGroupName name) back
  else match integer? name with
    | some (.ofNat number) => groupPiece pattern number back
    | _ => fail (.badGroupName name) back

/-- What a digit other than zero stands for behind a backslash: with two more octal digits a
code point, else a group of one or two digits. -/
def digitPiece (pattern : Pattern) (c : Char) : Reader Piece := do
  match ← peek with
  | some (.plain d) =>
    if ! d.isDigit then groupPiece pattern (Pattern.numeralValue 10 [c]) 1
    else
      skip
      match ← peek with
      | some (.plain e) =>
        if [c, d, e].all Pattern.isOctalDigit then
          skip
          let code := Pattern.numeralValue 8 [c, d, e]
          if 0o377 < code then fail (.octalTooLarge ['\\', c, d, e]) 4
          return .literal [Char.ofNat code]
        else groupPiece pattern (Pattern.numeralValue 10 [c, d]) 2
      | _ => groupPiece pattern (Pattern.numeralValue 10 [c, d]) 2
  | _ => groupPiece pattern (Pattern.numeralValue 10 [c]) 1

/-- The character that a letter stands for behind a backslash of a template. -/
def control? (c : Char) : Option Char := if c = 'b' then some '\x08' else Pattern.controlEscape? c

/-- What an escape of a template stands for. One without a meaning stands for itself. -/
def escapePiece (pattern : Pattern) (c : Char) : Reader Piece := do
  if c = 'g' then namedPiece pattern
  else if c = '0' then
    let digits ← readWhile Pattern.isOctalDigit 2
    return .literal [Char.ofNat (Pattern.numeralValue 8 digits % 256)]
  else if c.isDigit then digitPiece pattern c
  else match control? c with
    | some control => return .literal [control]
    | none =>
      if c.isAlpha then fail (.badEscape ['\\', c]) 2
      return .literal ['\\', c]

/-- The pieces of a template, of which at most the given number is read. -/
def pieces (pattern : Pattern) : Nat → Reader Template
  | 0 => return []
  | fuel + 1 => do
    match ← next with
    | none => return []
    | some (.plain c) => return .literal [c] :: (← pieces pattern fuel)
    | some (.escaped c) => return (← escapePiece pattern c) :: (← pieces pattern fuel)

/-- The template that a text is for a pattern. -/
def parse (pattern : Pattern) (text : Text) : Except PatternFault Template :=
  let reader : Reader Template := do
    begin
    pieces pattern (text.length + 1)
  (reader (.ofText [] text)).map (·.1)

/-! ## Filling in -/

/-- Whether a template refers to no group. -/
def isLiteral (template : Template) : Bool :=
  template.all fun
    | .literal _ => true
    | .group _ => false

/-- The characters between two places; none if the second is in front of the first. -/
def between (subject : Subject) (first last : Nat) : Text := (subject.extract first last).toList

/-- A template filled in for a match; a group that was not captured is empty. -/
def fill (template : Template) (subject : Subject) (found : Match) : Text :=
  template.flatMap fun
    | .literal text => text
    | .group number =>
      match found.span? number with
      | some (first, last) => between subject first last
      | none => []

end Template

/-- Why matches cannot be replaced. -/
inductive Breakage
  /-- The replacement is no template for the pattern. -/
  | template (fault : PatternFault)
  /-- A group of a match ends in front of its beginning. -/
  | wrongSpan
  deriving DecidableEq

namespace Breakage

/-- What cannot be done, in words. -/
def message : Breakage → Text
  | template fault => fault.cause.words
  | wrongSpan => "The span of capturing group is wrong, please report a bug for the re module."

end Breakage

namespace Pattern

/-- A template filled in for a match, whose groups must not end in front of their beginnings
if the template refers to any. -/
def replacement (pattern : Pattern) (template : Template) (subject : Subject) (found : Match) :
    Except Breakage Text :=
  if ! template.isLiteral && found.hasWrongSpan pattern.groupCount then .error .wrongSpan
  else .ok (template.fill subject found)

/-- The text from a place on with all matches replaced, of which at most a number is looked
for; an empty match at the place may be refused. -/
def substituteFrom (pattern : Pattern) (template : Template) (subject : Subject) :
    (fuel place : Nat) → (refuseEmpty : Bool) → Except Breakage Text
  | 0, place, _ => .ok (Template.between subject place subject.size)
  | fuel + 1, place, refuseEmpty =>
    match pattern.find? subject refuseEmpty place with
    | none => .ok (Template.between subject place subject.size)
    | some found => do
      let replaced ← pattern.replacement template subject found
      let rest ←
        pattern.substituteFrom template subject fuel found.last (found.last = found.first)
      return Template.between subject place found.first ++ replaced ++ rest

/-- A text with all matches of a pattern replaced. -/
def substitute (pattern : Pattern) (template : Template) (text : Text) : Except Breakage Text :=
  let subject := text.toArray
  pattern.substituteFrom template subject (2 * subject.size + 3) 0 false

/-- Whether a pattern matches somewhere in a text; a group of the match must not end in front
of its beginning. -/
def search (pattern : Pattern) (text : Text) : Except Breakage Bool :=
  match pattern.find? text.toArray false 0 with
  | none => .ok false
  | some found => if found.hasWrongSpan pattern.groupCount then .error .wrongSpan else .ok true

end Pattern

end SchemaMigration
