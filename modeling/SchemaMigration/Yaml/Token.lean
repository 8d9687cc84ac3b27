import SchemaMigration.Text.Utf8
import SchemaMigration.Yaml.Cursor

/-!
# YAML tokens

The tokens of a document are its scalars and indicators, with the boundaries of blocks, which
the text shows by indentation alone, made explicit.

## Main Definitions

* `Token` - a token
* `Directive` - what a line that begins with a percent sign says
* `TagName` - the name of a tag as written
* `directive`, `anchorName`, `tagName` - reading what stands behind an indicator
-/

namespace SchemaMigration.Yaml

open Text

/-- What a line that begins with a percent sign says. -/
inductive Directive
  /-- The version of the language, by its first number. -/
  | version (major : Text)
  /-- What a handle stands for at the beginning of tags. -/
  | handle (handle expansion : Text)
  | other
  deriving DecidableEq

/-- The name of a tag as written: whole, or behind a handle. -/
inductive TagName
  | whole (name : Text)
  | behind (handle suffix : Text)
  deriving DecidableEq

/-- A token of a document. -/
inductive Token
  | directive (directive : Directive)
  | documentStart
  | documentEnd
  | finish
  | openBlockList
  | openBlockMap
  | closeBlock
  | openList
  | closeList
  | openMap
  | closeMap
  /-- The dash in front of an item of a block. -/
  | item
  /-- The comma behind an entry within brackets. -/
  | comma
  | key
  | value
  | alias (name : Text)
  | anchor (name : Text)
  | tag (name : TagName)
  | scalar (text : Text) (isPlain : Bool)
  /-- A place at which no token can be read. -/
  | fault (fault : Fault)
  deriving DecidableEq

/-! ## Names -/

/-- The name of an anchor or an alias; the cursor is at its indicator. -/
def anchorName (cursor : Cursor) : Except Fault (Text × Cursor) :=
  let cursor := cursor.skip
  let name := cursor.run isNameCharacter
  let cursor := cursor.skipWhile isNameCharacter
  let ends := isGap cursor.next? || cursor.next?.any (· ∈ "?:,]\x7d%@\x60".toList)
  if name.isEmpty || ! ends then .error .token else .ok (name, cursor)

/-- Whether a tag may have a character. -/
def isTagCharacter (c : Char) : Bool :=
  c.isAlphanum || c ∈ "-;/?:@&=+$,_.!~*'()[]%".toList

/-- The octets that the percent signs here stand for, and what follows them. -/
def percentOctets : Nat → Text → Except Fault (List Nat × Text)
  | fuel + 1, '%' :: text =>
    match hexadecimalNumber? 2 text with
    | none => .error .token
    | some octet => do
      let (octets, rest) ← percentOctets fuel (text.drop 2)
      return (octet :: octets, rest)
  | _, text => .ok ([], text)

/-- A tag with its percent signs resolved. -/
def unescapeTag : Nat → Text → Except Fault Text
  | fuel + 1, '%' :: text => do
    let (octets, rest) ← percentOctets ('%' :: text).length ('%' :: text)
    let decoded ← (ofUtf8 octets).mapError fun _ => Fault.token
    return decoded ++ (← unescapeTag fuel rest)
  | fuel + 1, c :: text => do return c :: (← unescapeTag fuel text)
  | _, _ => .ok []

/-- A tag, or the part of one behind its handle. -/
def tagText (cursor : Cursor) : Except Fault (Text × Cursor) := do
  let written := cursor.run isTagCharacter
  if written.isEmpty then throw .token
  return (← unescapeTag written.length written, cursor.skipWhile isTagCharacter)

/-- The handle of a tag: an exclamation mark, or a name between two of them. -/
def tagHandle (cursor : Cursor) : Except Fault (Text × Cursor) :=
  if cursor.next? ≠ some '!' then .error .token
  else if cursor.ahead? 1 = some ' ' then .ok ("!", cursor.skip)
  else
    let name := cursor.skip.run isNameCharacter
    let behind := cursor.skip.skipWhile isNameCharacter
    if behind.next? = some '!' then .ok ("!" ++ name ++ "!".toList, behind.skip) else .error .token

/-- The name of a tag; the cursor is at its exclamation mark. -/
def tagName (cursor : Cursor) : Except Fault (TagName × Cursor) := do
  let (name, cursor) ← do
    if cursor.ahead? 1 = some '<' then
      let (name, cursor) ← tagText (cursor.skipMany 2)
      unless cursor.next? = some '>' do throw Fault.token
      pure (TagName.whole name, cursor.skip)
    else if isGap (cursor.ahead? 1) then pure (.whole "!", cursor.skip)
    else
      let word := cursor.skip.run fun c => ! (c == ' ' || isBreak c)
      let (handle, cursor) ←
        if '!' ∈ word then tagHandle cursor else pure ("!".toList, cursor.skip)
      let (suffix, cursor) ← tagText cursor
      pure (.behind handle suffix, cursor)
  unless cursor.next? = some ' ' || isLineEnd cursor.next? do throw .token
  return (name, cursor)

/-! ## Directives -/

/-- A number of a version. -/
def versionNumber (cursor : Cursor) : Except Fault (Text × Cursor) :=
  let digits := cursor.run Char.isDigit
  if digits.isEmpty then .error .token else .ok (digits, cursor.skipWhile Char.isDigit)

/-- A version, by its first number. -/
def versionDirective (cursor : Cursor) : Except Fault (Directive × Cursor) := do
  let (major, cursor) ← versionNumber cursor.skipSpaces
  unless cursor.next? = some '.' do throw .token
  let (_, cursor) ← versionNumber cursor.skip
  unless cursor.next? = some ' ' || isLineEnd cursor.next? do throw .token
  return (.version major, cursor)

/-- A tag handle with what it stands for. -/
def handleDirective (cursor : Cursor) : Except Fault (Directive × Cursor) := do
  let (handle, cursor) ← tagHandle cursor.skipSpaces
  unless cursor.next? = some ' ' do throw .token
  let (expansion, cursor) ← tagText cursor.skipSpaces
  unless cursor.next? = some ' ' || isLineEnd cursor.next? do throw .token
  return (.handle handle expansion, cursor)

/-- A directive, up to the end of its line; the cursor is at its percent sign. -/
def directive (cursor : Cursor) : Except Fault (Directive × Cursor) := do
  let cursor := cursor.skip
  let name := cursor.run isNameCharacter
  let cursor := cursor.skipWhile isNameCharacter
  if name.isEmpty then throw .token
  unless cursor.next? = some ' ' || isLineEnd cursor.next? do throw .token
  let (directive, cursor) ←
    if name = "YAML".toList then versionDirective cursor
    else if name = "TAG".toList then handleDirective cursor
    else pure (Directive.other, cursor.skipWhile (! isBreak ·))
  let cursor := cursor.skipSpaces.skipComment
  unless isLineEnd cursor.next? do throw .token
  match cursor.lineBreak? with
  | some (_, cursor) => return (directive, cursor)
  | none => return (directive, cursor)

end SchemaMigration.Yaml
