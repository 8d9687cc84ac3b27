import SchemaMigration.Yaml.Numeral

/-!
# YAML tags

A tag names the type of a node's value. A plain scalar without a tag has the type that its
text looks like.

## Main Definitions

* `Tag` - the type of a node's value
* `truthOfWord?` - the truth value that a word stands for
* `Tag.ofPlain` - the type that a plain scalar looks like
* `Tag.ofScalar`, `Tag.ofList`, `Tag.ofMap` - the type of a node, given its written tag
-/

namespace SchemaMigration.Yaml

open Text

/-- The type of a node's value. -/
inductive Tag
  | null
  | bool
  | whole
  | fraction
  | text
  | timestamp
  | octets
  | list
  | map
  /-- A list of pairs, written as a list of mappings. -/
  | pairs
  /-- A set, written as a mapping of which the keys count. -/
  | set
  /-- A key whose mapping is merged into the one around it. -/
  | merge
  /-- The key of a mapping's own value. -/
  | value
  /-- A type that no configuration has. -/
  | other (name : Text)
  deriving DecidableEq

/-- The truth value that a word in lower case stands for. -/
def truthOfWord? (word : Text) : Option Bool :=
  if word ∈ ["yes", "true", "on"].map String.toList then some true
  else if word ∈ ["no", "false", "off"].map String.toList then some false
  else none

/-- The truth value that a scalar looks like: a word in lower case, in upper case, or with a
capital in front. -/
def truth? (text : Text) : Option Bool :=
  let word := text.map Char.toLower
  let isUniform := text == word || text == word.map Char.toUpper
  let isCapital := text.head? == (word.map Char.toUpper).head? && text.tail == word.tail
  if isUniform || isCapital then truthOfWord? word else none

namespace Tag

/-- The type that a scalar on one line looks like. -/
def ofLine (text : Text) : Tag :=
  if text ∈ ["", "~", "null", "Null", "NULL"].map String.toList then null
  else if (truth? text).isSome then bool
  else if isFractionNumeral text then fraction
  else if isWholeNumeral text then whole
  else if text = "<<".toList then merge
  else if isTimestamp text then timestamp
  else if text = "=".toList then value
  else if text ∈ ["!", "&", "*"].map String.toList then other "tag:yaml.org,2002:yaml"
  else Tag.text

/-- The type that a plain scalar looks like; a line break at its end does not count. -/
def ofPlain (text : Text) : Tag :=
  let line := withoutFinalBreak text
  if line.isEmpty && ! text.isEmpty then Tag.text else ofLine line

/-- The type that a full name of a tag stands for. -/
def ofName (name : Text) : Tag :=
  match after? "tag:yaml.org,2002:" name with
  | none => other name
  | some kind =>
    if kind = "null".toList then null
    else if kind = "bool".toList then bool
    else if kind = "int".toList then whole
    else if kind = "float".toList then fraction
    else if kind = "str".toList then text
    else if kind = "timestamp".toList then timestamp
    else if kind = "binary".toList then octets
    else if kind = "seq".toList then list
    else if kind = "map".toList then map
    else if kind = "omap".toList || kind = "pairs".toList then pairs
    else if kind = "set".toList then set
    else if kind = "merge".toList then merge
    else if kind = "value".toList then value
    else other name

/-- The name of a written tag; an exclamation mark alone leaves the type open. -/
def named? (written : Option Text) : Option Text := written.filter (· != ['!'])

/-- The type of a scalar. -/
def ofScalar (written : Option Text) (isPlain : Bool) (scalar : Text) : Tag :=
  match named? written with
  | some name => ofName name
  | none => if isPlain || written.isSome then ofPlain scalar else text

/-- The type of a list. -/
def ofList (written : Option Text) : Tag := ((named? written).map ofName).getD list

/-- The type of a mapping. -/
def ofMap (written : Option Text) : Tag := ((named? written).map ofName).getD map

end Tag

end SchemaMigration.Yaml
