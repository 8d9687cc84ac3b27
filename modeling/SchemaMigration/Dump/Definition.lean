import SchemaMigration.Dump.Statement
import SchemaMigration.ObjectKind
import SchemaMigration.Journal

/-!
# Definitions of a dump

Of the statements of a dump, those that create, alter or drop a table, a view or a routine
are definitions. All others are passed over, unless nothing else is found: then the whole
text stands as one unrecognisable definition, so that a reader can refuse it.

## Main Definitions

* `Definition` - a statement about a schema object
* `Definition.ofStatement?` - the definition that a statement is
* `Definition.droppedName` - the name that a `DROP` discards
* `Dump.definitions`, `Dump.notes` - the definitions of a dump, and what was passed over
-/

namespace SchemaMigration

open Text

/-- A statement about a schema object; one without a subject is an unrecognisable text. -/
structure Definition where
  subject : Option (Verb × ObjectKind)
  text : Text
  deriving DecidableEq

namespace Definition

/-- A clause that may stand between the verb and the kind of object, behind blanks. -/
def modifier? (text : Text) : Option Text := do
  let clause ← blanks? text
  keyword? "TEMPORARY" clause
    <|> (assignment? "ALGORITHM" clause).map (·.2)
    <|> (assignment? "DEFINER" clause).map (·.2)
    <|> (do
      let (_, rest) ← word? (← blanks? (← keywords? ["SQL", "SECURITY"] clause))
      return rest)

/-- The rest behind `OR REPLACE`, or the whole text if it is not there. -/
def afterReplace (text : Text) : Text :=
  ((blanks? text).bind (keywords? ["OR", "REPLACE"])).getD text

/-- The verb of a statement and the rest behind its keyword. -/
def verb? (text : Text) : Option (Verb × Text) :=
  Verb.all.findSome? fun verb => (wholeKeyword? verb.word text).map fun rest => (verb, rest)

/-- What a statement does and to what kind of object. -/
def subject? (statement : Text) : Option (Verb × ObjectKind) := do
  let (verb, rest) ← verb? (trimLeft statement)
  let kind ← blanks? (afterAll modifier? (afterReplace rest))
  let rest ← ObjectKind.keywords.findSome? fun keyword => wholeKeyword? keyword kind
  return (verb, .ofSpelling (before kind rest))

/-- Whether a character is white space of which blank lines consist. -/
def isLineSpace (c : Char) : Bool := c == '\n' || c == ' ' || c == '\t'

/-- A newline with the blank lines behind it and the indentation behind those; one newline
takes their place. -/
def blankLines? (text : Text) : Option (Text × Text) :=
  match text with
  | '\n' :: rest =>
    if (rest.takeWhile isLineSpace).contains '\n' then some (['\n'], rest.dropWhile isLineSpace)
    else none
  | _ => none

/-- The definition that a statement is; blank lines inside it are left out. -/
def ofStatement? (statement : Text) : Option Definition :=
  (subject? statement).map fun subject =>
    { subject := some subject, text := replaceMatches (fun _ => blankLines?) (trim statement) }

/-- The longest beginning without blanks, semicolons and commas, if it is not empty. -/
def listedName? (text : Text) : Option Text :=
  let name := text.takeWhile fun c => ! isBlank c && c != ';' && c != ','
  if name.isEmpty then none else some name

/-- The name behind the keywords of a `DROP` statement, which may have `IF EXISTS`. -/
def nameOfDrop? (text : Text) : Option Text := do
  let kind ← blanks? (← keyword? "DROP" (trimLeft text))
  let rest ← blanks? (← anyKeyword? ObjectKind.keywords kind)
  ((keywords? ["IF", "EXISTS"] rest).bind blanks?).bind listedName? <|> listedName? rest

/-- The name that a definition discards. -/
def droppedName (definition : Definition) : Option Text :=
  match definition.subject with
  | some (.drop, _) => nameOfDrop? definition.text
  | _ => none

end Definition

namespace Dump

/-- Whether a statement sets up the session or fills tables rather than define anything. -/
def isEnvironment (statement : Text) : Bool :=
  let text := trimLeft statement
  let words : List Text :=
    ["SET", "USE", "LOCK", "UNLOCK", "INSERT", "REPLACE", "START", "COMMIT", "BEGIN"]
  words.any (fun word => (wholeKeyword? word text).isSome) ||
  (do
    let rest ← blanks? (← anyKeyword? (Verb.all.map Verb.word) text)
    wholeKeyword? "DATABASE" rest <|> wholeKeyword? "SCHEMA" rest).isSome

/-- The definitions among statements. -/
def recognised (statements : List Text) : List Definition :=
  statements.filterMap Definition.ofStatement?

/-- The statements that are neither definitions nor about the session. -/
def unknown (statements : List Text) : List Text :=
  statements.filter fun s => (Definition.ofStatement? s).isNone && ! isEnvironment s

/-- The definitions of a dump, in order. -/
def definitions (keepQuotes : Bool) (raw : Text) : List Definition :=
  let text := decode keepQuotes raw
  let all := statements text
  if (recognised all).isEmpty && ! (unknown all).isEmpty then [⟨none, trim text⟩]
  else recognised all

/-- The statements of a dump that are passed over, and how many definitions remain. -/
def notes (keepQuotes : Bool) (raw : Text) : Journal :=
  let all := statements (decode keepQuotes raw)
  let passed := all.filter fun s => (Definition.ofStatement? s).isNone
  passed.map (fun s => .debug ("skipping non-definition statement: " ++ firstVisibleLine (trim s)))
    ++ [.debug ("dump split into " ++ ofNat (recognised all).length ++ " definitions (" ++
      ofNat passed.length ++ " other statements skipped)")]

end Dump

end SchemaMigration
