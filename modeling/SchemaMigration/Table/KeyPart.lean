import SchemaMigration.Text.Search

/-!
# Key parts

The parenthesised lists of a table definition: the columns of a key, the parameters of a
routine, the expression of a check. Parentheses and commas inside string literals do not
count, and neither do commas inside parentheses.

## Main Definitions

* `Literal` - where a scanner stands with respect to string literals
* `parenthesised?` - the text between matching parentheses, and the rest
* `listItems` - the items of a comma-separated list
* `columnName?` - the column that a key part names
* `leadingColumns` - the columns that a key starts with
-/

namespace SchemaMigration

open Text

/-- Where a scanner stands with respect to string literals in single or double quotes. -/
inductive Literal
  | outside
  | inside (quote : Char)
  /-- Behind a backslash inside a literal. -/
  | escaped (quote : Char)
  deriving DecidableEq

/-- Where the scanner stands behind one more character. -/
def Literal.next (c : Char) : Literal → Literal
  | outside => if c == '\x27' || c == '\x22' then inside c else outside
  | inside quote =>
    if c == '\\' then escaped quote else if c == quote then outside else inside quote
  | escaped quote => inside quote

/-- The text up to the parenthesis that closes an already open one, and the rest behind it;
`depth` counts the parentheses opened since. -/
def parenthesisedFrom? : Literal → Nat → Text → Option (Text × Text)
  | _, _, [] => none
  | .outside, depth, c :: text =>
    if c = '(' then
      (parenthesisedFrom? .outside (depth + 1) text).map fun (inner, rest) => (c :: inner, rest)
    else if c = ')' then
      match depth with
      | 0 => some ([], text)
      | depth + 1 =>
        (parenthesisedFrom? .outside depth text).map fun (inner, rest) => (c :: inner, rest)
    else
      (parenthesisedFrom? (Literal.outside.next c) depth text).map fun (inner, rest) =>
        (c :: inner, rest)
  | literal, depth, c :: text =>
    (parenthesisedFrom? (literal.next c) depth text).map fun (inner, rest) => (c :: inner, rest)

/-- The text between a leading parenthesis and the one that closes it, and the trimmed rest. -/
def parenthesised? : Text → Option (Text × Text)
  | '(' :: text => (parenthesisedFrom? .outside 0 text).map fun (inner, rest) => (inner, trim rest)
  | _ => none

/-- How many parentheses are open behind one more character; one too many to close is
ignored. -/
def depthAfter (c : Char) (depth : Nat) : Literal → Nat
  | .outside => if c = '(' then depth + 1 else if c = ')' then depth - 1 else depth
  | _ => depth

/-- The pieces between commas outside literals and parentheses; never the empty list. -/
def listPieces : Literal → Nat → Text → List Text
  | _, _, [] => [[]]
  | literal, depth, c :: text =>
    if c = ',' ∧ depth = 0 ∧ literal = .outside then [] :: listPieces .outside 0 text
    else
      match listPieces (literal.next c) (depthAfter c depth literal) text with
      | [] => [[c]]
      | piece :: pieces => (c :: piece) :: pieces

/-- The items of a comma-separated list, trimmed; empty ones are left out. -/
def listItems (text : Text) : List Text :=
  ((listPieces .outside 0 text).map trim).filter (! ·.isEmpty)

/-- An identifier in backquotes with its quotes, or a run of characters that are neither
blanks nor opening parentheses nor backquotes; and the rest. -/
def columnIdentifier? : Text → Option (Text × Text)
  | '\x60' :: text =>
    match text.takeWhile (· != '\x60'), text.dropWhile (· != '\x60') with
    | [], _ => none
    | _ :: _, [] => none
    | identifier, quote :: rest => some ('\x60' :: identifier ++ [quote], rest)
  | text =>
    let inside := fun c => ! isBlank c && c != '(' && c != '\x60'
    let found := text.takeWhile inside
    if found.isEmpty then none else some (found, text.dropWhile inside)

/-- The rest behind a length in parentheses. -/
def keyLength? (text : Text) : Option Text := do
  after? ")" (← digits? (← after? "(" (trimLeft text)))

/-- The rest behind a sort order. -/
def keyOrder? (text : Text) : Option Text := do
  anyKeyword? ["ASC", "DESC"] (← blanks? text)

/-- The column that a key part names, without its length and sort order; a part that is an
expression names none. -/
def columnName? (part : Text) : Option Text := do
  let (name, rest) ← columnIdentifier? (trim part)
  let rest := (keyLength? rest).getD rest
  let rest := (keyOrder? rest).getD rest
  if rest.isEmpty then some name else none

/-- The columns that key parts name; expressions are left out. -/
def namedColumns (parts : List Text) : List Text := parts.filterMap columnName?

/-- The columns that a key starts with, up to its first expression. -/
def leadingColumns : List Text → List Text
  | [] => []
  | part :: parts =>
    match columnName? part with
    | some name => name :: leadingColumns parts
    | none => []

/-- Key parts between parentheses. -/
def partsText (parts : List Text) : Text := "(" ++ join "," parts ++ ")"

end SchemaMigration
