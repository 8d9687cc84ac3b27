import SchemaMigration.Yaml.Scalar
import SchemaMigration.Yaml.Token

/-!
# Tokens of a YAML text

The tokens of a text are read in one pass. That a node is the key of a mapping shows only at
the colon behind it, so a place at which a key may begin is remembered until the line ends,
and the tokens that open a mapping and a key are put there afterwards.

## Main Definitions

* `Layout` - the tokens read so far, with the open blocks and brackets
* `Layout.step` - reads one more token
* `tokens` - the tokens of a text

## Design Notes

A reader of tokens asks for one at a time, and does not get a token of which it is not yet
known whether it is a key. When a token cannot be read, the tokens that it could not have
got by then are left out, so that of two faults in a text the one that is met first counts.
-/

namespace SchemaMigration.Yaml

open Text

/-- A place at which a key may begin. -/
structure KeyPlace where
  /-- The number of brackets around it. -/
  depth : Nat
  /-- The number of tokens in front of it. -/
  position : Nat
  /-- Whether only a key may stand there. -/
  isRequired : Bool
  index : Nat
  line : Nat
  column : Nat

/-- The tokens read so far, with the open blocks and brackets. -/
structure Layout where
  cursor : Cursor
  /-- The tokens, the last one first. -/
  reversed : List Token
  count : Nat
  /-- The number of open brackets. -/
  depth : Nat
  /-- One more than the column of the innermost block; zero outside of all blocks. -/
  margin : Nat
  /-- The margins of the blocks around it. -/
  outerMargins : List Nat
  /-- Whether a key may begin at the next token. -/
  mayBeginKey : Bool
  keyPlaces : List KeyPlace
  isFinished : Bool

/-- A step of reading tokens; what was read stays when it fails. -/
abbrev Lexer := ExceptT Fault (StateM Layout)

namespace Layout

/-- The layout at the beginning of a text. -/
def start (text : Text) : Layout where
  cursor := .start text
  reversed := []
  count := 0
  depth := 0
  margin := 0
  outerMargins := []
  mayBeginKey := true
  keyPlaces := []
  isFinished := false

/-- The layout with one more token. -/
def push (token : Token) (layout : Layout) : Layout :=
  { layout with reversed := token :: layout.reversed, count := layout.count + 1 }

/-- The layout with a token put in at a position. -/
def insert (position : Nat) (token : Token) (layout : Layout) : Layout :=
  let behind := layout.count - position
  { layout with
    reversed := layout.reversed.take behind ++ token :: layout.reversed.drop behind
    count := layout.count + 1 }

/-- Closes blocks, of which the innermost has the given margin, down to a column. -/
def closeBlocks (column : Nat) : List Nat → Layout → Layout
  | [], layout => layout
  | outer :: margins, layout =>
    if column < layout.margin then
      closeBlocks column margins
        { layout.push .closeBlock with margin := outer, outerMargins := margins }
    else layout

/-- Closes the blocks that end in front of a margin. Within brackets none does. -/
def unwind (margin : Nat) (layout : Layout) : Layout :=
  if layout.depth > 0 then layout else closeBlocks margin layout.outerMargins layout

/-- Opens a block at a column, if that is further than the innermost one. -/
def indent? (column : Nat) (layout : Layout) : Option Layout :=
  if layout.margin < column + 1 then
    some { layout with
      margin := column + 1, outerMargins := layout.margin :: layout.outerMargins }
  else none

end Layout

namespace Lexer

/-- Reads on behind a part of the text. -/
def moveTo (cursor : Cursor) : Lexer Unit := modify fun layout => { layout with cursor }

/-- Adds a token. -/
def emit (token : Token) : Lexer Unit := modify (·.push token)

/-- Says whether a key may begin at the next token. -/
def allowKey (mayBeginKey : Bool) : Lexer Unit := modify fun layout => { layout with mayBeginKey }

/-- Forgets the place of a key at the current depth. -/
def dropKeyPlace : Lexer Unit := do
  let layout ← get
  if layout.keyPlaces.any fun place => place.depth == layout.depth && place.isRequired then
    throw .token
  set { layout with keyPlaces := layout.keyPlaces.filter (·.depth != layout.depth) }

/-- Forgets the places of keys that ended with their lines. -/
def dropStaleKeyPlaces : Lexer Unit := do
  let layout ← get
  let isStale := fun (place : KeyPlace) =>
    place.line != layout.cursor.line || place.index + 1024 < layout.cursor.index
  if layout.keyPlaces.any fun place => isStale place && place.isRequired then throw .token
  set { layout with keyPlaces := layout.keyPlaces.filter (! isStale ·) }

/-- Remembers that a key may begin with the next token. -/
def rememberKeyPlace : Lexer Unit := do
  if (← get).mayBeginKey then
    dropKeyPlace
    modify fun layout =>
      let cursor := layout.cursor
      let place : KeyPlace :=
        { depth := layout.depth
          position := layout.count
          isRequired := layout.depth == 0 && layout.margin == cursor.column + 1
          index := cursor.index
          line := cursor.line
          column := cursor.column }
      { layout with keyPlaces := place :: layout.keyPlaces }

/-- Passes over blanks, comments and line breaks; a key may begin on a new line. -/
def skipToToken : Nat → Lexer Unit
  | 0 => return
  | fuel + 1 => do
    let layout ← get
    let cursor := layout.cursor.skipSpaces.skipComment
    match cursor.lineBreak? with
    | none => moveTo cursor
    | some (_, cursor) =>
      moveTo cursor
      if layout.depth = 0 then allowKey true
      skipToToken fuel

/-- A token that is passed over with so many characters. -/
def symbol (token : Token) (length : Nat) : Lexer Unit :=
  modify fun layout => { layout.push token with cursor := layout.cursor.skipMany length }

/-- Ends all blocks, as a line does that belongs to none. -/
def leaveBlocks : Lexer Unit := do
  modify (·.unwind 0)
  dropKeyPlace
  allowKey false

/-- The end of the text. -/
def finish : Lexer Unit := do
  leaveBlocks
  modify fun layout => { layout.push .finish with keyPlaces := [], isFinished := true }

/-- A marker of three characters that bounds documents. -/
def marker (token : Token) : Lexer Unit := do
  leaveBlocks
  symbol token 3

/-- An opening bracket. -/
def openBracket (token : Token) : Lexer Unit := do
  rememberKeyPlace
  modify fun layout => { layout with depth := layout.depth + 1, mayBeginKey := true }
  symbol token 1

/-- A closing bracket. -/
def closeBracket (token : Token) : Lexer Unit := do
  dropKeyPlace
  modify fun layout => { layout with depth := layout.depth - 1, mayBeginKey := false }
  symbol token 1

/-- Opens a block here outside of brackets, where a key may begin. -/
def openBlock (token : Token) : Lexer Unit := do
  let layout ← get
  if layout.depth = 0 then
    unless layout.mayBeginKey do throw .token
    match layout.indent? layout.cursor.column with
    | some layout => set (layout.push token)
    | none => return

/-- The dash in front of an item. -/
def item : Lexer Unit := do
  openBlock .openBlockList
  allowKey true
  dropKeyPlace
  symbol .item 1

/-- The question mark in front of a key. -/
def key : Lexer Unit := do
  openBlock .openBlockMap
  allowKey ((← get).depth == 0)
  dropKeyPlace
  symbol .key 1

/-- The colon in front of a value. What stands on its line in front of it is its key. -/
def value : Lexer Unit := do
  let layout ← get
  match layout.keyPlaces.find? (·.depth == layout.depth) with
  | some place =>
    let layout := { layout with
      keyPlaces := layout.keyPlaces.filter (·.depth != layout.depth), mayBeginKey := false }
    let layout := layout.insert place.position .key
    set <|
      if layout.depth > 0 then layout
      else match layout.indent? place.column with
        | some layout => layout.insert place.position .openBlockMap
        | none => layout
  | none =>
    openBlock .openBlockMap
    allowKey (layout.depth == 0)
  symbol .value 1

/-- A token that may be the beginning of a key. -/
def word {α : Type} (read : Cursor → Except Fault (α × Cursor)) (token : α → Token) :
    Lexer Unit := do
  rememberKeyPlace
  allowKey false
  let (found, cursor) ← (read (← get).cursor : Except Fault (α × Cursor))
  moveTo cursor
  emit (token found)

/-- A plain scalar. -/
def plain : Lexer Unit := do
  rememberKeyPlace
  let layout ← get
  let (text, cursor, endsLine) := plainScalar (layout.depth > 0) layout.margin layout.cursor
  moveTo cursor
  allowKey endsLine
  emit (.scalar text true)

/-- A scalar of indented lines. -/
def block (isFolded : Bool) : Lexer Unit := do
  allowKey true
  dropKeyPlace
  let layout ← get
  let (text, cursor) ← (blockScalar isFolded layout.margin layout.cursor.skip :
    Except Fault (Text × Cursor))
  moveTo cursor
  emit (.scalar text false)

/-- Whether a plain scalar begins with a character, given the character behind it. -/
def beginsPlain (inFlow : Bool) (c : Char) (next : Option Char) : Bool :=
  ! (isGap (some c) || c ∈ "-?:,[]\x7b\x7d#&*!|>'\x22%@\x60".toList) ||
  (! isGap next && (c == '-' || (! inFlow && (c == '?' || c == ':'))))

/-- Reads one more token, with the tokens that it makes known. -/
def step : Lexer Unit := do
  skipToToken (← get).cursor.rest.length.succ
  dropStaleKeyPlaces
  modify fun layout => layout.unwind (layout.cursor.column + 1)
  let layout ← get
  let cursor := layout.cursor
  let inFlow := layout.depth > 0
  let behind := cursor.ahead? 1
  match cursor.next? with
  | none => finish
  | some c =>
    if cursor.column = 0 && c == '%' then
      leaveBlocks
      let (found, cursor) ← (directive cursor : Except Fault (Directive × Cursor))
      moveTo cursor
      emit (.directive found)
    else if cursor.column = 0 && cursor.isAtMarker "---" then marker .documentStart
    else if cursor.column = 0 && cursor.isAtMarker "..." then marker .documentEnd
    else if c == '[' then openBracket .openList
    else if c == '\x7b' then openBracket .openMap
    else if c == ']' then closeBracket .closeList
    else if c == '\x7d' then closeBracket .closeMap
    else if c == ',' then
      allowKey true
      dropKeyPlace
      symbol .comma 1
    else if c == '-' && isGap behind then item
    else if c == '?' && (inFlow || isGap behind) then key
    else if c == ':' && (inFlow || isGap behind) then value
    else if c == '*' then word anchorName .alias
    else if c == '&' then word anchorName .anchor
    else if c == '!' then word tagName .tag
    else if c == '|' && ! inFlow then block false
    else if c == '>' && ! inFlow then block true
    else if c == '\x27' || c == '\x22' then word (quotedScalar c) (.scalar · false)
    else if beginsPlain inFlow c behind then plain
    else throw .token

end Lexer

/-- Reads one more token and forgets the places of keys that end with its line. -/
def Lexer.stepAndSettle : Lexer Unit := do
  Lexer.step
  unless (← get).isFinished do Lexer.dropStaleKeyPlaces

/-- The tokens that a layout gives out: not those that stand behind a place at which a key may
begin. -/
def Layout.available (layout : Layout) : List Token :=
  let count := layout.keyPlaces.foldl (fun count place => min count place.position) layout.count
  layout.reversed.reverse.take count

/-- The tokens from a layout on. -/
def tokensFrom : Nat → Layout → List Token
  | 0, layout => layout.reversed.reverse
  | fuel + 1, layout =>
    if layout.isFinished then layout.reversed.reverse
    else match Lexer.stepAndSettle.run.run layout with
      | (.error fault, _) => layout.available ++ [.fault fault]
      | (.ok (), layout) => tokensFrom fuel layout

/-- The tokens of a text, the last of which is the end of the text or a fault. -/
def tokens (text : Text) : List Token :=
  if text.all isPrintable then tokensFrom (text.length + 2) (.start text) else [.fault .character]

end SchemaMigration.Yaml
