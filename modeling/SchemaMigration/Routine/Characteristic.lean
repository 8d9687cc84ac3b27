import SchemaMigration.Text.Search

/-!
# Characteristics of a routine

Between the parameters of a routine and its body stand characteristics: the type of the
result, a comment, the language, what the body does to data, whose rights it runs with.

## Main Definitions

* `Routine.characteristic?` - one characteristic and the rest behind it
* `Routine.characteristicsAndBody` - all characteristics in a row, and the body

## Design Notes

A characteristic ends where its grammar ends, not where a word ends: the length of a result
type is read only up to its first blank, so what follows a blank inside the parentheses
belongs to the body.
-/

namespace SchemaMigration.Routine

open Text

/-- The rest behind the literal whose opening quote was just read. A doubled quote and a
character behind a backslash belong to the literal; where the literal then never ends, it
ends at the last doubled quote instead. -/
def literalEnd? : Text → Option Text
  | [] => none
  | '\x27' :: '\x27' :: text => literalEnd? text <|> some ('\x27' :: text)
  | '\x27' :: text => some text
  | ['\\'] => none
  | '\\' :: _ :: text => literalEnd? text
  | _ :: text => literalEnd? text

/-- The character set behind blanks, with its keyword. -/
def characterSet? (text : Text) : Option Text := do
  let clause ← blanks? text
  let rest ← keyword? "CHARSET" clause <|> keywords? ["CHARACTER", "SET"] clause
  let (_, rest) ← word? (← blanks? rest)
  return rest

/-- The collation behind blanks, with its keyword. -/
def collation? (text : Text) : Option Text := do
  let (_, rest) ← word? (← blanks? (← afterKeyword? "COLLATE" text))
  return rest

/-- The type of the result: a word, and possibly a length in parentheses, a sign, a character
set and a collation. -/
def resultType? (text : Text) : Option Text := do
  let (_, rest) ← word? (← blanks? (← keyword? "RETURNS" text))
  let rest := ((upToClosing? (trimLeft rest)).map (·.2)).getD rest
  let rest := (afterKeyword? "UNSIGNED" rest).getD rest
  let rest := (characterSet? rest).getD rest
  return (collation? rest).getD rest

/-- A comment on the routine. -/
def comment? (text : Text) : Option Text := do
  literalEnd? (← after? "'" (← blanks? (← keyword? "COMMENT" text)))

/-- The characteristics that are keywords throughout. -/
def fixedCharacteristics : List (List Text) :=
  [["LANGUAGE", "SQL"], ["NOT", "DETERMINISTIC"], ["DETERMINISTIC"], ["CONTAINS", "SQL"],
   ["NO", "SQL"], ["READS", "SQL", "DATA"], ["MODIFIES", "SQL", "DATA"],
   ["SQL", "SECURITY", "DEFINER"], ["SQL", "SECURITY", "INVOKER"]]

/-- A characteristic, with single spaces between its words, and the rest behind it. -/
def characteristic? (text : Text) : Option (Text × Text) := do
  let item := trimLeft text
  let fixed := fixedCharacteristics.findSome? (keywords? · item)
  let rest ← resultType? item <|> comment? item <|> fixed
  return (squash (before item rest), rest)

/-- At most the given number of characteristics in a row, and the rest behind them. -/
def characteristicsUpTo : Nat → Text → List Text × Text
  | 0, text => ([], text)
  | count + 1, text =>
    match characteristic? text with
    | none => ([], text)
    | some (item, rest) =>
      let (items, body) := characteristicsUpTo count rest
      (item :: items, body)

/-- All characteristics in a row and the body behind them. Each takes at least one
character, so there are no more of them than characters. -/
def characteristicsAndBody (text : Text) : List Text × Text :=
  let (items, body) := characteristicsUpTo text.length text
  (items, trim body)

end SchemaMigration.Routine
