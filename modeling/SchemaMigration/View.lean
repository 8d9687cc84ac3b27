import SchemaMigration.Text.Search
import SchemaMigration.Journal

/-!
# Views

A view is a named query with a few settings. It is re-created as a whole, always owned by
the user who runs the statement.

## Main Definitions

* `View` - a view, with the text it was read from
* `View.parse` - the view that a text defines
* `View.signature` - what two views are compared by
* `View.createStatement`, `View.alterStatement` - the statements that bring a view about
-/

namespace SchemaMigration

open Text

/-- A view as its definition describes it. -/
structure View where
  name : Text
  /-- The list of column names with its parentheses, or nothing. -/
  columns : Text
  select : Text
  algorithm : Text
  definer : Text
  security : Text
  checkOption : Text
  definition : Text
  deriving DecidableEq

/-- A text that is no view definition. -/
structure ViewError where
  text : Text
  deriving DecidableEq

/-- What went wrong, in words. -/
def ViewError.message (_ : ViewError) : Text := "couldn't parse view definition"

namespace View

/-- A setting behind blanks, written as a keyword, an equals sign and a word; and the rest. -/
def setting? (keyword text : Text) : Option (Text × Text) := do
  assignment? keyword (← blanks? text)

/-- The security setting behind blanks, and the rest. -/
def security? (text : Text) : Option (Text × Text) := do
  let value ← blanks? (← keywords? ["SQL", "SECURITY"] (← blanks? text))
  let rest ← anyKeyword? ["DEFINER", "INVOKER"] value
  return (before value rest, rest)

/-- The query behind `AS`, which blanks must follow. -/
def query? (text : Text) : Option Text := do blanks? (← keyword? "AS" text)

/-- The columns of a view, which may be missing, and the query behind them. -/
def columnsAndQuery? (text : Text) : Option (Text × Text) :=
  let text := trimLeft text
  (do
    let (columns, rest) ← upToClosing? text
    return (columns, ← query? (trimLeft rest)))
  <|> (query? text).map fun query => ([], query)

/-- The name of a view, its columns and its query. Where nothing that follows the name reads
as a query, the last two letters of the name may be the `AS` in front of it. -/
def nameColumnsAndQuery? (text : Text) : Option (Text × Text × Text) := do
  let (name, rest) ← name? text
  (do
    let (columns, query) ← columnsAndQuery? rest
    return (name, columns, query))
  <|> (do
    let shorter := name.take (name.length - 2)
    if shorter.isEmpty then none
    let query ← query? (text.drop shorter.length)
    return (shorter, [], query))

/-- The check option behind blanks, and the rest. -/
def checkOption? (text : Text) : Option (Text × Text) := do
  let option ← blanks? (← afterKeyword? "WITH" text)
  let scope := ((anyKeyword? ["CASCADED", "LOCAL"] option).bind blanks?).getD option
  let rest ← keywords? ["CHECK", "OPTION"] scope
  return (before option rest, rest)

/-- Whether nothing but blanks and at most one semicolon is left. -/
def isEnd (text : Text) : Bool :=
  let rest := trimLeft text
  isBlankText ((after? ";" rest).getD rest)

/-- The check option at the end of a definition, or nothing where the definition ends. -/
def ending? (text : Text) : Option Text :=
  (do
    let (option, rest) ← checkOption? text
    if isEnd rest then some option else none)
  <|> if isEnd text then some [] else none

/-- A setting in upper case, and the rest; `fallback` where it is missing. -/
def orElse (fallback : Text) (text : Text) : Option (Text × Text) → Text × Text
  | some (value, rest) => (value, rest)
  | none => (fallback, text)

/-- The view that a text defines, if it is one. -/
def ofText? (text : Text) : Option View := do
  let rest ← keyword? "CREATE" (trimLeft text)
  let rest := ((blanks? rest).bind (keywords? ["OR", "REPLACE"])).getD rest
  let (algorithm, rest) := orElse "UNDEFINED" rest (setting? "ALGORITHM" rest)
  let (definer, rest) := orElse "CURRENT_USER" rest (setting? "DEFINER" rest)
  let (security, rest) := orElse "DEFINER" rest (security? rest)
  let (name, columns, query) ← nameColumnsAndQuery? (← blanks? (← afterKeyword? "VIEW" rest))
  let (select, checkOption) ← splitAtSuffix? ending? query
  return {
    name
    columns := trim columns
    select := trim select
    algorithm := upper algorithm
    definer
    security := upper security
    checkOption := upper (squash checkOption)
    definition := trim text }

/-- The view that a text defines. -/
def parse (text : Text) : Except ViewError View :=
  match ofText? text with
  | some view => .ok view
  | none => .error ⟨trim text⟩

/-- What reading a view reports. -/
def notes (text : Text) : Journal :=
  match ofText? text with
  | some view => [.debug ("parsed view " ++ view.name)]
  | none => []

/-- What two views are compared by. The definer is not part of it, since a migration always
re-creates a view for the current user. -/
structure Signature where
  columns : Text
  select : Text
  algorithm : Text
  security : Text
  checkOption : Text
  deriving DecidableEq

/-- The signature of a view; layout and the case of settings do not matter. -/
def signature (view : View) : Signature where
  columns := squash view.columns
  select := squash view.select
  algorithm := upper view.algorithm
  security := upper view.security
  checkOption := upper (squash view.checkOption)

/-- The view as it stands behind `CREATE` or `ALTER`. -/
def body (view : View) : Text :=
  let check : Text :=
    if view.checkOption.isEmpty then [] else " WITH " ++ squash view.checkOption
  "ALGORITHM=" ++ view.algorithm ++ " DEFINER=CURRENT_USER SQL SECURITY " ++ view.security ++
    " VIEW " ++ view.name ++ spaced view.columns ++ " AS " ++ view.select ++ check ++ ";"

/-- The statement that creates a view. -/
def createStatement (view : View) : Text := "CREATE " ++ view.body

/-- The statement that changes an existing view into this one. -/
def alterStatement (view : View) : Text := "ALTER " ++ view.body

end View

end SchemaMigration
