import SchemaMigration.Yaml.Cursor

/-!
# YAML scalars

A scalar is written plain, in quotes, or as a block of indented lines. In the first two a
single line break is a space and every further one a line break; in a block the breaks stay,
or are folded in the same manner where the lines are not indented further.

## Main Definitions

* `quotedScalar` - a scalar in single or double quotes
* `plainScalar` - a scalar without quotes
* `blockScalar` - a scalar of indented lines

## Design Notes

Each of these reads on from a cursor and answers with the text of the scalar and the place
behind it. The recursions are bounded by the number of characters left, since every step
passes over at least one.
-/

namespace SchemaMigration.Yaml

open Text

/-- What the first line break of a run and the further ones stand for. -/
def foldBreaks (first : Char) (further : Text) : Text :=
  if first != '\n' then first :: further
  else if further.isEmpty then [' ']
  else further

/-! ## Quotes -/

/-- The character that an escape of one character stands for. -/
def escapeCharacter? : Char → Option Char
  | '0' => some '\x00'
  | 'a' => some '\x07'
  | 'b' => some '\x08'
  | 't' | '\t' => some '\t'
  | 'n' => some '\n'
  | 'v' => some '\x0b'
  | 'f' => some '\x0c'
  | 'r' => some '\r'
  | 'e' => some '\x1b'
  | ' ' => some ' '
  | '\x22' => some '\x22'
  | '\\' => some '\\'
  | '/' => some '/'
  | 'N' => some '\u0085'
  | '_' => some '\u00a0'
  | 'L' => some '\u2028'
  | 'P' => some '\u2029'
  | _ => none

/-- The number of hexadecimal digits that an escape has. -/
def escapeDigits? : Char → Option Nat
  | 'x' => some 2
  | 'u' => some 4
  | 'U' => some 8
  | _ => none

/-- The line breaks and blanks behind a first line break within quotes. -/
def quotedBreaks : Nat → Cursor → Except Fault (Text × Cursor)
  | 0, cursor => .ok ([], cursor)
  | fuel + 1, cursor =>
    if cursor.isAtBoundary then .error .token
    else
      let cursor := cursor.skipWhile fun c => c == ' ' || c == '\t'
      match cursor.lineBreak? with
      | none => .ok ([], cursor)
      | some (c, cursor) => do
        let (further, cursor) ← quotedBreaks fuel cursor
        return (c :: further, cursor)

/-- What an escape stands for; the cursor is behind its backslash. -/
def quotedEscape (cursor : Cursor) : Except Fault (Text × Cursor) :=
  match cursor.next? with
  | none => .error .token
  | some c =>
    match escapeCharacter? c, escapeDigits? c with
    | some character, _ => .ok ([character], cursor.skip)
    | none, some count =>
      match hexadecimalNumber? count cursor.skip.rest with
      | none => .error .token
      | some code =>
        if code < 0x110000 then .ok ([Char.ofNat code], cursor.skipMany (count + 1))
        else if code < 0x80000000 then .error (.range "chr() arg not in range(0x110000)")
        else .error .overflow
    | none, none =>
      match cursor.lineBreak? with
      | none => .error .token
      | some (_, cursor) => quotedBreaks cursor.rest.length.succ cursor

/-- The blanks that stand here within quotes, with the line breaks behind them. -/
def quotedBlanks (cursor : Cursor) : Except Fault (Text × Cursor) := do
  let blank := fun c => c == ' ' || c == '\t'
  let blanks := cursor.run blank
  let cursor := cursor.skipWhile blank
  match cursor.next?, cursor.lineBreak? with
  | none, _ => throw .token
  | some _, none => return (blanks, cursor)
  | some _, some (first, cursor) => do
    let (further, cursor) ← quotedBreaks cursor.rest.length.succ cursor
    return (foldBreaks first further, cursor)

/-- The text up to the closing quote, and the place behind that. -/
def quotedFrom (quote : Char) : Nat → Cursor → Except Fault (Text × Cursor)
  | 0, _ => .error .token
  | fuel + 1, cursor =>
    let isDouble := quote == '\x22'
    match cursor.next? with
    | none => .error .token
    | some c =>
      if c == quote then
        if ! isDouble && cursor.ahead? 1 == some quote then do
          let (text, rest) ← quotedFrom quote fuel (cursor.skipMany 2)
          return (quote :: text, rest)
        else return ([], cursor.skip)
      else do
        let (piece, cursor) ←
          if isDouble && c == '\\' then quotedEscape cursor.skip
          else if isGap (some c) then quotedBlanks cursor
          else pure ([c], cursor.skip)
        let (text, rest) ← quotedFrom quote fuel cursor
        return (piece ++ text, rest)

/-- A scalar in quotes; the cursor is at its opening quote. -/
def quotedScalar (quote : Char) (cursor : Cursor) : Except Fault (Text × Cursor) :=
  quotedFrom quote cursor.rest.length cursor.skip

/-! ## Plain scalars -/

/-- Whether a character has a meaning of its own within brackets. -/
def isFlowIndicator (c : Char) : Bool :=
  c == ',' || c == '[' || c == ']' || c == '\x7b' || c == '\x7d'

/-- Whether a colon with the given character behind it separates a key from its value. -/
def separatesValue (inFlow : Bool) (next : Option Char) : Bool :=
  isGap next || (inFlow && next.any isFlowIndicator)

/-- The part of a plain scalar that stands on one line without blanks. -/
def plainWord (inFlow : Bool) : Text → Text
  | [] => []
  | c :: text =>
    if isGap (some c) || (c == ':' && separatesValue inFlow text.head?) ||
        (inFlow && (c == '?' || isFlowIndicator c)) then []
    else c :: plainWord inFlow text

/-- The line breaks and spaces behind a first line break; none if a document ends there. -/
def plainBreaks : Nat → Cursor → Option Text × Cursor
  | 0, cursor => (some [], cursor)
  | fuel + 1, cursor =>
    if cursor.next? = some ' ' then plainBreaks fuel cursor.skip
    else match cursor.lineBreak? with
      | none => (some [], cursor)
      | some (c, cursor) =>
        if cursor.isAtBoundary then (none, cursor)
        else
          let (further, cursor) := plainBreaks fuel cursor
          (further.map (c :: ·), cursor)

/-- What the spaces and line breaks behind a word stand for. -/
structure PlainGap where
  text : Text
  rest : Cursor
  /-- Whether the gap has a line break. -/
  endsLine : Bool

/-- The spaces and line breaks behind a word of a plain scalar. -/
def plainGap (cursor : Cursor) : PlainGap :=
  let spaces := cursor.run (· == ' ')
  let cursor := cursor.skipSpaces
  match cursor.lineBreak? with
  | none => ⟨spaces, cursor, false⟩
  | some (first, cursor) =>
    if cursor.isAtBoundary then ⟨[], cursor, true⟩
    else match plainBreaks cursor.rest.length cursor with
      | (none, cursor) => ⟨[], cursor, true⟩
      | (some further, cursor) => ⟨foldBreaks first further, cursor, true⟩

/-- A plain scalar and the place behind it. The given gap stands in front of the cursor; the
scalar ends there if no word of it follows. -/
def plainFrom (inFlow : Bool) (margin : Nat) : Nat → PlainGap → Text × PlainGap
  | 0, gap => ([], gap)
  | fuel + 1, gap =>
    let word := plainWord inFlow gap.rest.rest
    if gap.rest.next? = some '#' || word.isEmpty then ([], gap)
    else
      let following := plainGap (gap.rest.skipMany word.length)
      let written := gap.text ++ word
      if following.text.isEmpty || following.rest.next? = some '#' ||
          (! inFlow && following.rest.column < margin) then (written, following)
      else
        let (text, last) := plainFrom inFlow margin fuel following
        (written ++ text, last)

/-- A plain scalar, the place behind it, and whether that is on a new line. The lines behind
its first one are indented at least by the margin. -/
def plainScalar (inFlow : Bool) (margin : Nat) (cursor : Cursor) : Text × Cursor × Bool :=
  let (text, last) := plainFrom inFlow margin cursor.rest.length ⟨[], cursor, false⟩
  (text, last.rest, last.endsLine)

/-! ## Blocks -/

/-- What becomes of the line breaks at the end of a block. -/
inductive Chomping
  | strip
  | clip
  | keep
  deriving DecidableEq

/-- What stands behind the indicator of a block: how its last breaks are treated, and how far
it is indented. -/
structure BlockHeader where
  chomping : Chomping
  indentation : Option Nat

/-- The chomping indicator that stands here. -/
def chomping? (cursor : Cursor) : Option (Chomping × Cursor) :=
  match cursor.next? with
  | some '+' => some (.keep, cursor.skip)
  | some '-' => some (.strip, cursor.skip)
  | _ => none

/-- The indentation indicator that stands here; zero is none. -/
def indentation? (cursor : Cursor) : Except Fault (Option (Nat × Cursor)) :=
  match cursor.next? with
  | some c =>
    if c == '0' then .error .token
    else if c.isDigit then .ok (some (c.toNat - 48, cursor.skip))
    else .ok none
  | none => .ok none

/-- The indicators of a block, up to the end of their line. -/
def blockHeader (cursor : Cursor) : Except Fault (BlockHeader × Cursor) := do
  let (header, cursor) ← do
    match chomping? cursor with
    | some (chomping, cursor) =>
      match ← indentation? cursor with
      | some (width, cursor) => pure (⟨chomping, some width⟩, cursor)
      | none => pure (⟨chomping, none⟩, cursor)
    | none =>
      match ← indentation? cursor with
      | some (width, cursor) =>
        match chomping? cursor with
        | some (chomping, cursor) => pure (⟨chomping, some width⟩, cursor)
        | none => pure (⟨.clip, some width⟩, cursor)
      | none => pure (BlockHeader.mk .clip none, cursor)
  unless cursor.next? = some ' ' || isLineEnd cursor.next? do throw .token
  let cursor := cursor.skipSpaces.skipComment
  unless isLineEnd cursor.next? do throw .token
  match cursor.lineBreak? with
  | some (_, cursor) => return (header, cursor)
  | none => return (header, cursor)

/-- The empty lines at the beginning of a block, the place behind them, and the furthest
column that a space of them reaches. -/
def blockLead : Nat → Nat → Cursor → Text × Nat × Cursor
  | 0, widest, cursor => ([], widest, cursor)
  | fuel + 1, widest, cursor =>
    if cursor.next? = some ' ' then blockLead fuel (max widest cursor.skip.column) cursor.skip
    else match cursor.lineBreak? with
      | none => ([], widest, cursor)
      | some (c, cursor) =>
        let (breaks, widest, cursor) := blockLead fuel widest cursor
        (c :: breaks, widest, cursor)

/-- The place behind the spaces that stand in front of a column. -/
def skipIndentation (indentation : Nat) (cursor : Cursor) : Cursor :=
  cursor.skipMany (min (cursor.run (· == ' ')).length (indentation - cursor.column))

/-- The empty lines within a block, and the place of the next line's text. -/
def blockBreaks (indentation : Nat) : Nat → Cursor → Text × Cursor
  | 0, cursor => ([], skipIndentation indentation cursor)
  | fuel + 1, cursor =>
    let cursor := skipIndentation indentation cursor
    match cursor.lineBreak? with
    | none => ([], cursor)
    | some (c, cursor) =>
      let (breaks, cursor) := blockBreaks indentation fuel cursor
      (c :: breaks, cursor)

/-- Whether a line begins with a blank, so that the breaks around it are not folded. -/
def isIndented (cursor : Cursor) : Bool :=
  cursor.next? == some ' ' || cursor.next? == some '\t'

/-- The lines of a block from the cursor on: their text, the last line break, the empty lines
behind it, and the place behind these. -/
def blockLines (isFolded : Bool) (indentation : Nat) :
    Nat → (breaks : Text) → Cursor → Text × Text × Text × Cursor
  | 0, breaks, cursor => ([], [], breaks, cursor)
  | fuel + 1, breaks, cursor =>
    if cursor.column = indentation && cursor.next?.isSome then
      let line := cursor.run (! isBreak ·)
      let behind := cursor.skipMany line.length
      let (lineBreak, afterBreak) : Text × Cursor :=
        match behind.lineBreak? with
        | none => ([], behind)
        | some (c, rest) => ([c], rest)
      let (further, following) := blockBreaks indentation afterBreak.rest.length afterBreak
      if following.column = indentation && following.next?.isSome then
        let joint : Text :=
          if isFolded && lineBreak = ['\n'] && ! isIndented cursor && ! isIndented following then
            (if further.isEmpty then [' '] else [])
          else lineBreak
        let (text, rest) := blockLines isFolded indentation fuel further following
        (breaks ++ line ++ joint ++ text, rest)
      else (breaks ++ line, lineBreak, further, following)
    else ([], [], breaks, cursor)

/-- A scalar of indented lines and the place behind it; the cursor is behind its indicator.
The lines are indented at least by the margin. -/
def blockScalar (isFolded : Bool) (margin : Nat) (cursor : Cursor) :
    Except Fault (Text × Cursor) := do
  let (header, cursor) ← blockHeader cursor
  let least := max 1 margin
  let (breaks, indentation, cursor) :=
    match header.indentation with
    | none =>
      let (breaks, widest, cursor) := blockLead cursor.rest.length 0 cursor
      (breaks, max least widest, cursor)
    | some width =>
      let indentation := least + width - 1
      let (breaks, cursor) := blockBreaks indentation cursor.rest.length cursor
      (breaks, indentation, cursor)
  let (text, lineBreak, further, cursor) :=
    blockLines isFolded indentation cursor.rest.length.succ breaks cursor
  return match header.chomping with
    | .strip => (text, cursor)
    | .clip => (text ++ lineBreak, cursor)
    | .keep => (text ++ lineBreak ++ further, cursor)

end SchemaMigration.Yaml
