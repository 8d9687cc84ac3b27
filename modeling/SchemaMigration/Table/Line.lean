import SchemaMigration.Table.Basic

/-!
# Lines of a table body

Each line between the parentheses of a table definition is one of seven things. The key
keywords are tried first, in a fixed order, so a column may be named like a keyword as long
as the line does not read as a key.

## Main Definitions

* `TableLine` - what a line of a table body is
* `TableLine.ofText` - what a line reads as

## Design Notes

Of a key line only the text between its parentheses is kept; its parts are `listItems` of
that text. A key line whose parentheses do not match is unrecognised, except that an index
line then may still be a column.
-/

namespace SchemaMigration

open Text

/-- What a line of a table body is. -/
inductive TableLine
  | primaryKey (partsText options : Text)
  | foreignKey (name : Option Text) (partsText refTable refPartsText actions : Text)
  | check (name : Option Text) (expression options : Text)
  | index (name : Option Text) (kind : IndexKind) (partsText options : Text)
  | terminator (options : Text)
  | column (name definition : Text)
  | unrecognised (text : Text)
  deriving DecidableEq

namespace TableLine

/-- The word behind `USING`, if that stands behind blanks, and the text from an opening
parenthesis on. -/
def method? (text : Text) : Option (Option Text × Text) :=
  (do
    let rest ← blanks? (← afterKeyword? "USING" text)
    let (method, rest) ← wordCharacters? rest
    return (some method, ← opening? rest))
  <|> (opening? text).map fun rest => (none, rest)

/-- The name of a constraint and what is read behind it; the name may be missing, and so may
the keyword `CONSTRAINT` as a whole. -/
def constraint? {α : Type} (read : Text → Option α) (text : Text) :
    Option (Option Text × α) :=
  (do
    let rest ← keyword? "CONSTRAINT" text
    (do
      let (name, rest) ← name? (← blanks? rest)
      return (some name, ← read (← blanks? rest)))
    <|> (do return (none, ← read (← blanks? rest))))
  <|> (read text).map fun found => (none, found)

/-- Options from the method of a key and the text behind its parentheses. -/
def keyOptions (method : Option Text) (rest : Text) : Text :=
  let clause : Text := match method with
    | some word => "USING " ++ upper word
    | none => []
  join " " ([clause, rest].filter (! ·.isEmpty))

/-- A line that reads as a primary key. -/
def primaryKey? (line : Text) : Option TableLine := do
  let (method, rest) ← method? (← keywords? ["PRIMARY", "KEY"] line)
  match parenthesised? rest with
  | none => some (unrecognised line)
  | some (inner, rest) => some (primaryKey inner (keyOptions method rest))

/-- The text from the parenthesis behind `FOREIGN KEY` on; an index name may stand before
it. -/
def foreignKeyParts? (text : Text) : Option Text := do
  let rest ← keywords? ["FOREIGN", "KEY"] text
  (do opening? (← name? (← blanks? rest)).2) <|> opening? rest

/-- The table behind `REFERENCES` and the text from the parenthesis behind it on. -/
def reference? (text : Text) : Option (Text × Text) := do
  let (table, rest) ← name? (← blanks? (← keyword? "REFERENCES" text))
  return (table, ← opening? rest)

/-- A line that reads as a foreign key. -/
def foreignKey? (line : Text) : Option TableLine := do
  let (name, rest) ← constraint? foreignKeyParts? line
  let read : Option TableLine := do
    let (inner, rest) ← parenthesised? rest
    let (table, rest) ← reference? rest
    let (refInner, actions) ← parenthesised? rest
    return foreignKey name inner table refInner actions
  return read.getD (unrecognised line)

/-- A line that reads as a check constraint. -/
def check? (line : Text) : Option TableLine := do
  let (name, rest) ← constraint? (fun text => do opening? (← keyword? "CHECK" text)) line
  match parenthesised? rest with
  | none => some (unrecognised line)
  | some (inner, rest) => some (check name inner rest)

/-- The name of an index, its method, and the text from an opening parenthesis on. A name
must be followed by a blank and must not be the word `USING`. -/
def indexTail? (text : Text) : Option (Option Text × Option Text × Text) :=
  (do
    let rest ← blanks? text
    if (wholeKeyword? "USING" rest).isSome then none
    let (name, rest) ← name? rest
    let _ ← blanks? rest
    let (method, rest) ← method? rest
    return (some name, method, rest))
  <|> (method? text).map fun (method, rest) => (none, method, rest)

/-- The kind that the first word of an index line names; a spelling with a dotted capital I
names a plain index. -/
def indexKind (word : Text) : IndexKind :=
  let word := upper word
  if word = "UNIQUE".toList then .unique
  else if word = "FULLTEXT".toList then .fulltext
  else if word = "SPATIAL".toList then .spatial
  else .plain

/-- The kind of an index line, and its name, method and parenthesis. -/
def indexHead? (line : Text) : Option (IndexKind × Option Text × Option Text × Text) :=
  (["UNIQUE", "FULLTEXT", "SPATIAL"].findSome? fun (word : String) => do
    let rest ← keyword? word.toList line
    let behindKey := do anyKeyword? ["KEY", "INDEX"] (← blanks? rest)
    let tail ← behindKey.bind indexTail? <|> indexTail? rest
    return (indexKind (before line rest), tail))
  <|> (do
    let tail ← indexTail? (← anyKeyword? ["KEY", "INDEX"] line)
    return (.plain, tail))

/-- A line that reads as an index. -/
def index? (line : Text) : Option TableLine := do
  let (kind, name, method, rest) ← indexHead? line
  let (inner, rest) ← parenthesised? rest
  return index name kind inner (keyOptions method rest)

/-- A line that closes the table body. -/
def terminator? : Text → Option TableLine
  | ')' :: rest => some (terminator (trim rest))
  | _ => none

/-- A line that defines a column: a word, and something behind it. -/
def column? (line : Text) : Option TableLine := do
  let (name, rest) ← word? line
  let definition := trim rest
  if definition.isEmpty then none else some (column name definition)

/-- What a line of a table body, without its comma, reads as. -/
def ofText (text : Text) : TableLine :=
  let line := trim text
  (primaryKey? line <|> foreignKey? line <|> check? line <|> index? line <|>
    terminator? line <|> column? line).getD (unrecognised line)

end TableLine

end SchemaMigration
