import SchemaMigration.Pattern.Fault
import SchemaMigration.Text.Identifier

/-!
# Reading tokens of a pattern

A pattern is read token by token: a character, or a backslash with the character behind it.
The reader also keeps account of the groups that were opened and of the flags that are on.

## Main Definitions

* `Token` - a character or an escape
* `Reading` - the tokens still to come, and what was seen before them
* `Reader` - a step of reading that may fail
* `Reader.begin`, `Reader.peek`, `Reader.next`, `Reader.accept`, `Reader.fail` - the elementary
  steps
-/

namespace SchemaMigration

open Text

/-- A character, or a backslash with the character behind it. -/
inductive Token
  | plain (c : Char)
  | escaped (c : Char)
  deriving DecidableEq

namespace Token

/-- A token as written. -/
def text : Token → Text
  | plain c => [c]
  | escaped c => ['\\', c]

/-- The tokens of a text, and whether a lone backslash is left at its end. -/
def ofText : Text → List Token × Bool
  | [] => ([], false)
  | ['\\'] => ([], true)
  | '\\' :: c :: text =>
    let (tokens, lone) := ofText text
    (escaped c :: tokens, lone)
  | c :: text =>
    let (tokens, lone) := ofText text
    (plain c :: tokens, lone)

end Token

/-- The tokens still to come, and what was seen before them. -/
structure Reading where
  tokens : List Token
  /-- The number of characters in front of the next token. -/
  position : Nat
  /-- Whether a lone backslash stands behind the last token. -/
  loneBackslash : Bool
  /-- The number of characters of the pattern. -/
  length : Nat
  /-- The widths of the groups, the whole pattern first; an open group has none yet. -/
  groups : List (Option Width)
  names : List (Text × Nat)
  flags : Flags
  /-- The number of groups when the outermost enclosing look-behind began. -/
  lookBehindFrom : Option Nat
  /-- Conditions on groups by number, with the positions of the numbers. -/
  references : List (Nat × Nat)
  /-- The number of groups around the next token. -/
  level : Nat

/-- The reading of a text that has not begun, with the given flags on. -/
def Reading.ofText (flags : Flags) (text : Text) : Reading :=
  let (tokens, loneBackslash) := Token.ofText text
  { tokens
    position := 0
    loneBackslash
    length := text.length
    groups := [none]
    names := []
    flags
    lookBehindFrom := none
    references := []
    level := 0 }

/-- A step of reading that may fail. -/
abbrev Reader := StateT Reading (Except PatternFault)

namespace Reader

/-- Fails with a cause at the place the given number of characters back. -/
def fail {α : Type} (cause : PatternCause) (back : Nat) : Reader α :=
  fun reading => .error ⟨cause, some (reading.position - back)⟩

/-- Fails with a cause that has no place. -/
def failAnywhere {α : Type} (cause : PatternCause) : Reader α := fun _ => .error ⟨cause, none⟩

/-- The number of characters in front of the next token. -/
def position : Reader Nat := do return (← get).position

/-- The next token, which stays. -/
def peek : Reader (Option Token) := do return (← get).tokens.head?

/-- Passes over the next token. A lone backslash at the end is refused as soon as it would
be next. -/
def skip : Reader Unit := fun reading =>
  match reading.tokens with
  | [] => .ok ((), reading)
  | token :: rest =>
    if rest.isEmpty && reading.loneBackslash then
      .error ⟨.endsInBackslash, some (reading.length - 1)⟩
    else .ok ((), { reading with
      tokens := rest, position := reading.position + token.text.length })

/-- The next token, which is passed over. -/
def next : Reader (Option Token) := do
  let token ← peek
  skip
  return token

/-- Passes over the given character if it is next, and tells whether it was. -/
def accept (c : Char) : Reader Bool := do
  if (← peek) = some (.plain c) then
    skip
    return true
  else return false

/-- Refuses a text that is a lone backslash. -/
def begin : Reader Unit := do
  if (← get).tokens.isEmpty && (← get).loneBackslash then fail .endsInBackslash 0

/-- Reads at most the given number of characters that pass a test. -/
def readWhile (accepts : Char → Bool) : Nat → Reader Text
  | 0 => return []
  | count + 1 => do
    match ← peek with
    | some (.plain c) =>
      if accepts c then
        skip
        return c :: (← readWhile accepts count)
      else return []
    | _ => return []

/-- Reads up to a character that ends a name, behind what was read of the name so far. -/
def readNameFrom (terminator : Char) (what : Text) (name : Text) : Nat → Reader Text
  | 0 => return name
  | fuel + 1 => do
    match ← next with
    | none =>
      if name.isEmpty then fail (.missingName what) 0
      else fail (.unterminatedName terminator) name.length
    | some token =>
      if token = .plain terminator then
        if name.isEmpty then fail (.missingName what) 1 else return name
      else readNameFrom terminator what (name ++ token.text) fuel

/-- Reads a name up to the character that ends it, which is passed over. -/
def readName (terminator : Char) (what : Text) : Reader Text := do
  readNameFrom terminator what [] ((← get).tokens.length + 1)

/-- Refuses a text that cannot name a group. -/
def checkGroupName (name : Text) : Reader Unit := do
  if isIdentifier name then return () else fail (.badGroupName name) (name.length + 1)

/-- The width of a group, if the group is closed. -/
def closedGroup? (number : Nat) : Reader (Option Width) := do
  return (((← get).groups)[number]?).join

/-- Opens one more group and answers with its number. -/
def openGroup (name : Option Text) : Reader Nat := do
  let reading ← get
  let number := reading.groups.length
  set { reading with groups := reading.groups ++ [none] }
  match name with
  | none => return number
  | some name =>
    match reading.names.lookup name with
    | some earlier => fail (.repeatedGroupName name number earlier) (name.length + 1)
    | none =>
      modify fun reading => { reading with names := reading.names ++ [(name, number)] }
      return number

/-- The number of groups that may enclose each other. -/
def nestingLimit : Nat := 490

/-- Reads within one more group, unless too many enclose each other. -/
def nested {α : Type} (inner : Reader α) : Reader α := do
  let level := (← get).level
  if nestingLimit ≤ level then failAnywhere .nesting
  modify fun reading => { reading with level := level + 1 }
  let result ← inner
  modify fun reading => { reading with level }
  return result

/-- The widths of the closed groups. -/
def groupWidths : Reader (Nat → Width) := do
  let groups := (← get).groups
  return fun number => ((groups[number]?).join).getD .zero

/-- Closes a group, whose width is then known. -/
def closeGroup (number : Nat) (body : Node) : Reader Unit := do
  let width := body.width (← groupWidths)
  modify fun reading => { reading with groups := reading.groups.set number (some width) }

/-- Inside a look-behind, refuses a reference to a group that is open or was opened in it. -/
def checkLookBehind (number : Nat) : Reader Unit := do
  match (← get).lookBehindFrom with
  | none => return ()
  | some first =>
    if (← closedGroup? number).isNone then fail .openGroup 0
    if first ≤ number then fail .groupOfSameLookBehind 0

end Reader

end SchemaMigration
