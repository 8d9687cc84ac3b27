import SchemaMigration.Text.Search

/-!
# Comments of a dump

A dump carries line comments, block comments, and executable comments, whose payload is
statement text. Line comments are recognised outside quotes and block comments only; the
two block forms are then removed or opened up wherever they stand.

## Main Definitions

* `Dump.stripLineComments` - the text without `#` and `-- ` comments
* `Dump.stripIdentifierQuotes` - the text without backquotes around identifiers
* `Dump.decode` - the statement text of a dump
-/

namespace SchemaMigration.Dump

open Text

/-- Where a scanner for line comments stands. -/
inductive Region
  /-- Outside quotes and comments. -/
  | code
  /-- Inside a literal or identifier opened by the given quote. -/
  | quoted (quote : Char)
  /-- Inside a block comment. -/
  | block
  /-- Inside a line comment, which is left out up to its newline. -/
  | line
  deriving DecidableEq

/-- Whether a character opens a literal or a quoted identifier. -/
def isQuote (c : Char) : Bool := c == '\x27' || c == '\x22' || c == '\x60'

/-- Whether two hyphens in front of the given text open a line comment: only a blank of a
line or the end of the text may follow them. -/
def opensDashComment : Text → Bool
  | [] => true
  | c :: _ => c == ' ' || c == '\t' || c == '\r' || c == '\n'

/-- The text without line comments, read from inside the given region. In literals a
backslash escapes the next character; in quoted identifiers it does not. -/
def stripLineCommentsFrom : Region → Text → Text
  | _, [] => []
  | .quoted quote, '\\' :: c :: text =>
    if quote = '\x60' then
      '\\' :: stripLineCommentsFrom (.quoted quote) (c :: text)
    else '\\' :: c :: stripLineCommentsFrom (.quoted quote) text
  | .quoted quote, c :: text =>
    c :: stripLineCommentsFrom (if c = quote then .code else .quoted quote) text
  | .block, '*' :: '/' :: text => '*' :: '/' :: stripLineCommentsFrom .code text
  | .block, c :: text => c :: stripLineCommentsFrom .block text
  | .line, '\n' :: text => '\n' :: stripLineCommentsFrom .code text
  | .line, _ :: text => stripLineCommentsFrom .line text
  | .code, '/' :: '*' :: text => '/' :: '*' :: stripLineCommentsFrom .block text
  | .code, '#' :: text => stripLineCommentsFrom .line text
  | .code, '-' :: '-' :: text =>
    if opensDashComment text then stripLineCommentsFrom .line text
    else '-' :: stripLineCommentsFrom .code ('-' :: text)
  | .code, c :: text =>
    c :: stripLineCommentsFrom (if isQuote c then .quoted c else .code) text

/-- The text without `#` and `-- ` comments outside quotes and block comments. -/
def stripLineComments (text : Text) : Text := stripLineCommentsFrom .code text

/-- A non-empty identifier between backquotes, and the rest behind it. -/
def quotedIdentifier? : Text → Option (Text × Text)
  | '\x60' :: text =>
    match text.takeWhile (· != '\x60'), text.dropWhile (· != '\x60') with
    | [], _ => none
    | _ :: _, [] => none
    | identifier, _ :: rest => some (identifier, rest)
  | _ => none

/-- The text with every backquoted identifier bare. -/
def stripIdentifierQuotes (text : Text) : Text := replaceMatches (fun _ => quotedIdentifier?) text

/-- Spaces and tabs are passed over. -/
def skipSpaces (text : Text) : Text := text.dropWhile fun c => c == ' ' || c == '\t'

/-- An executable comment that sets a variable, with its semicolon and the spaces around
it; nothing takes its place. -/
def settingComment? (text : Text) : Option (Text × Text) := do
  let payload ← blanks? (← digits? (← after? "/*!" text))
  let value ← blanks? (← keyword? "SET" payload)
  let (_, rest) ← splitAtFirst? "*/" value
  let rest := skipSpaces rest
  return ([], skipSpaces ((after? ";" rest).getD rest))

/-- An executable comment; its payload on a new line takes its place. -/
def executableComment? (text : Text) : Option (Text × Text) := do
  let inside ← after? "/*!" text
  let (payload, rest) ← splitAtFirst? "*/" (trimLeft (inside.dropWhile isDigit))
  return ('\n' :: payload, rest)

/-- A block comment with the spaces behind it; nothing takes its place. -/
def blockComment? (text : Text) : Option (Text × Text) := do
  let (_, rest) ← splitAtFirst? "*/" (← after? "/*" text)
  return ([], skipSpaces rest)

/-- The statement text of a dump: no comments, no settings, the payload of executable
comments, and bare identifiers unless their quotes are kept. -/
def decode (keepQuotes : Bool) (raw : Text) : Text :=
  let text := unifyNewlines raw
  let text := if keepQuotes then text else stripIdentifierQuotes text
  let text := stripLineComments text
  let text := replaceMatches (fun _ => settingComment?) text
  let text := replaceMatches (fun _ => executableComment?) text
  replaceMatches (fun _ => blockComment?) text

end SchemaMigration.Dump
