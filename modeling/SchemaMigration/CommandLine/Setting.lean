import SchemaMigration.Source.Connection

/-!
# Settings of the command line

What the words of a command line can set. A setting has a long name behind two hyphens and
perhaps a letter behind one, and takes a value or none.

## Main Definitions

* `Setting` - what can be set
* `Setting.names` - the names of all settings, with their hyphens
* `Setting.takesValue` - whether a setting has a value
-/

namespace SchemaMigration

open Text

/-- One of the two schemas that are compared. -/
inductive Side
  | first
  | second
  deriving DecidableEq

/-- What a word of a command line can set. -/
inductive Setting
  | tolerant
  | noOldDefs
  | onlyBoth
  | keepOldTables
  | tableRe
  | listTables
  | refs
  | saveQuotes
  | config
  | canonicalise
  /-- A setting of the connections to both schemas, or to one of them. -/
  | connection (field : ConnectionField) (side : Option Side)
  | debug
  | debugFile
  | output
  | help
  | version
  deriving DecidableEq

namespace Setting

/-- The names of the settings of connections. -/
def connectionNames : List (Text × Setting) :=
  ConnectionField.all.flatMap fun field =>
    [("--" ++ field.word, connection field none),
      ("--" ++ field.word ++ "1", connection field (some .first)),
      ("--" ++ field.word ++ "2", connection field (some .second))]

/-- The names of the other settings, with their hyphens. -/
def commonNames : List (Text × Setting) :=
  [("-h", help), ("--help", help), ("--version", version), ("-t", tolerant),
    ("--tolerant", tolerant), ("-n", noOldDefs), ("--no-old-defs", noOldDefs), ("-o", onlyBoth),
    ("--only-both", onlyBoth), ("-k", keepOldTables), ("--keep-old-tables", keepOldTables),
    ("-r", tableRe), ("--table-re", tableRe), ("--list-tables", listTables), ("--refs", refs),
    ("--save-quotes", saveQuotes), ("--config", config), ("--canonicalise", canonicalise),
    ("-d", debug), ("--debug", debug), ("--debug-file", debugFile), ("-O", output),
    ("--output", output)]

/-- The names of all settings. -/
def names : List (Text × Setting) := commonNames ++ connectionNames

/-- Whether a setting has a value. -/
def takesValue : Setting → Bool
  | tableRe | config | connection _ _ | debug | debugFile | output => true
  | _ => false

/-- The setting of a name. -/
def ofName? (name : Text) : Option Setting := names.lookup name

end Setting

end SchemaMigration
