import SchemaMigration.CommandLine.Setting
import SchemaMigration.Text.Numeral

/-!
# Arguments

A command line names two schemas and any settings between, before and behind them. Long
names may be shortened as long as they stay unambiguous, letters may be joined, and a value
stands behind an equals sign, behind its letter, or in the next word. Behind two hyphens
every word is an argument. Two hyphens are never an argument themselves: where they stand as
one, nothing is left of it. Whether they may be the value of a setting is not settled: earlier
releases of the reader of command lines lose them there as well, later ones keep them.

## Main Definitions

* `Arguments` - what a command line says
* `Refusal` - why a command line does not start a comparison
* `HyphenRule` - what becomes of two hyphens as the value of a setting
* `Word` - a word of a command line, recognised on its own
* `Request` - what a command line asks for in one place
* `Arguments.ofWords` - what the words of a command line say
-/

namespace SchemaMigration

open Text

/-- The settings of a command line. -/
structure Preferences where
  tolerant : Bool
  noOldDefs : Bool
  onlyBoth : Bool
  keepOldTables : Bool
  tableRe : Option Text
  listTables : Bool
  refs : Bool
  saveQuotes : Bool
  config : Option Text
  canonicalise : Bool
  /-- The settings of the connections to both schemas. -/
  shared : Connection
  /-- The settings of the connection to the first schema alone. -/
  ownFirst : Connection
  ownSecond : Connection
  debug : Int
  debugFile : Option Text
  output : Option Text
  /-- The settings that were given last without anything left of their value. -/
  lost : List Setting
  deriving DecidableEq

/-- What a command line says. The name of a schema is missing where nothing is left of it. -/
structure Arguments where
  first : Option Text
  second : Option Text
  preferences : Preferences
  deriving DecidableEq

/-- Why a command line does not start a comparison. -/
inductive Refusal
  /-- It cannot be understood. -/
  | usage
  /-- It asks for help. -/
  | help
  /-- It asks for the version. -/
  | version
  deriving DecidableEq

/-- What becomes of two hyphens that stand as the value of a setting. -/
inductive HyphenRule
  | kept
  /-- Nothing is left of the value. -/
  | lost
  deriving DecidableEq

/-! ## Words -/

/-- A word of a command line, recognised on its own. -/
inductive Word
  | argument (text : Text)
  /-- A setting, with the value that is part of its word; only of a letter can the value be
  more letters. -/
  | setting (setting : Setting) (value : Option Text) (isLetter : Bool)
  /-- A word that looks like a setting and is none. -/
  | stray
  /-- Two hyphens, behind which all words are arguments. -/
  | separator
  deriving DecidableEq

namespace Word

/-- Whether a text is a negative number, which is an argument in spite of its hyphen. -/
def isNegativeNumber : Text → Bool
  | '-' :: text =>
    let number := if text.getLast? = some '\n' then text.dropLast else text
    let fraction := number.dropWhile isDigit
    if fraction.isEmpty then ! number.isEmpty
    else match fraction with
      | '.' :: digits => ! digits.isEmpty && digits.all isDigit
      | _ => false
  | _ => false

/-- The text in front of the first equals sign, and the value behind it if there is one. -/
def splitValue (text : Text) : Text × Option Text :=
  match splitAtFirst? "=" text with
  | some (name, value) => (name, some value)
  | none => (text, none)

/-- Whether a name has a single hyphen. -/
def isLetterName (name : Text) : Bool := ! startsWith "--" name

/-- The settings that a word may be short for. -/
def candidates (text : Text) : List Word :=
  if startsWith "--" text then
    let (beginning, value) := splitValue text
    (Setting.names.filter fun (name, _) => startsWith beginning name).map fun (_, found) =>
      setting found value false
  else
    (Setting.names.filter fun (name, _) => name = text.take 2 || startsWith text name).map
      fun (name, found) =>
        if name = text.take 2 then setting found (some (text.drop 2)) true
        else setting found none (isLetterName name)

/-- Recognises a word in front of any separator; a word that may be short for several
settings is refused. -/
def ofText (text : Text) : Except Refusal Word :=
  if ! startsWith "-" text then .ok (argument text)
  else match Setting.ofName? text with
    | some found => .ok (setting found none (isLetterName text))
    | none =>
      let (name, value) := splitValue text
      if text.length = 1 then .ok (argument text)
      else match Setting.ofName? name, value with
        | some found, some value => .ok (setting found (some value) (isLetterName name))
        | _, _ =>
          match candidates text with
          | [word] => .ok word
          | _ :: _ => .error .usage
          | [] =>
            .ok (if isNegativeNumber text || ' ' ∈ text then argument text else stray)

/-- Recognises the words of a command line. -/
def ofTexts : List Text → Except Refusal (List Word)
  | [] => .ok []
  | text :: texts =>
    if text = "--".toList then .ok (separator :: texts.map argument)
    else do return (← ofText text) :: (← ofTexts texts)

end Word

/-! ## Reading words -/

namespace Preferences

/-- The settings of a command line without words. -/
def default : Preferences where
  tolerant := false
  noOldDefs := false
  onlyBoth := false
  keepOldTables := false
  tableRe := none
  listTables := false
  refs := false
  saveQuotes := false
  config := none
  canonicalise := false
  shared := .none
  ownFirst := .none
  ownSecond := .none
  debug := 0
  debugFile := none
  output := none
  lost := []

/-- A value that is a whole number. -/
def numberOf (value : Text) : Except Refusal Int :=
  match integer? value with
  | some number => .ok number
  | none => .error .usage

/-- A connection with another value of a setting, or with none. -/
def setConnection (connection : Connection) (field : ConnectionField) (value : Option Text) :
    Except Refusal Connection :=
  match field with
  | .host => .ok { connection with host := value }
  | .port => do return { connection with port := ← value.mapM numberOf }
  | .user => .ok { connection with user := value }
  | .password => .ok { connection with password := value }
  | .socket => .ok { connection with socket := value }

/-- The preferences with a setting that has no value. -/
def switchOn (preferences : Preferences) : Setting → Except Refusal Preferences
  | .tolerant => .ok { preferences with tolerant := true }
  | .noOldDefs => .ok { preferences with noOldDefs := true }
  | .onlyBoth => .ok { preferences with onlyBoth := true }
  | .keepOldTables => .ok { preferences with keepOldTables := true }
  | .listTables => .ok { preferences with listTables := true }
  | .refs => .ok { preferences with refs := true }
  | .saveQuotes => .ok { preferences with saveQuotes := true }
  | .canonicalise => .ok { preferences with canonicalise := true }
  | .help => .error .help
  | .version => .error .version
  | _ => .error .usage

/-- The preferences with a value of a setting, or without any. -/
def assign (preferences : Preferences) (setting : Setting) (value : Option Text) :
    Except Refusal Preferences :=
  match setting with
  | .tableRe => .ok { preferences with tableRe := value }
  | .config => .ok { preferences with config := value }
  | .connection field none => do
    return { preferences with shared := ← setConnection preferences.shared field value }
  | .connection field (some .first) => do
    return { preferences with ownFirst := ← setConnection preferences.ownFirst field value }
  | .connection field (some .second) => do
    return { preferences with ownSecond := ← setConnection preferences.ownSecond field value }
  | .debug => do return { preferences with debug := (← value.mapM numberOf).getD 0 }
  | .debugFile => .ok { preferences with debugFile := value }
  | .output => .ok { preferences with output := value }
  | _ => .error .usage

/-- The preferences with a value of a setting. -/
def set (rule : HyphenRule) (preferences : Preferences) (setting : Setting) (value : Text) :
    Except Refusal Preferences :=
  if rule = .lost ∧ value = "--".toList then
    { preferences with lost := setting :: preferences.lost }.assign setting none
  else { preferences with lost := preferences.lost.filter (· ≠ setting) }.assign setting value

/-- The preferences with several settings that have no value. -/
def switchAllOn (preferences : Preferences) (settings : List Setting) :
    Except Refusal Preferences :=
  settings.foldlM switchOn preferences

end Preferences

/-- Joined letters: those without a value, and the last one if it takes a value, with that
value if it is part of the word. -/
structure Letters where
  switches : List Setting
  last : Option (Setting × Option Text)

/-- The letters that are joined to a letter without a value. -/
def lettersOf : Text → Except Refusal Letters
  | [] => .ok ⟨[], none⟩
  | c :: text =>
    match Setting.ofName? ['-', c] with
    | none => .error .usage
    | some setting =>
      if setting.takesValue then
        .ok ⟨[], some (setting, if text.isEmpty then none else some text)⟩
      else do
        let letters ← lettersOf text
        return { letters with switches := setting :: letters.switches }

/-- The settings of one word. -/
def lettersOfWord (setting : Setting) (value : Option Text) (isLetter : Bool) :
    Except Refusal Letters :=
  if setting.takesValue then .ok ⟨[], some (setting, value)⟩
  else match value with
    | none => .ok ⟨[setting], none⟩
    | some value =>
      if ! isLetter || value.isEmpty then .error .usage
      else do
        let letters ← lettersOf value
        return { letters with switches := setting :: letters.switches }

/-- What a command line asks for in one place. -/
inductive Request
  /-- The name of a schema, unless nothing is left of it. -/
  | schema (name : Option Text)
  /-- Settings that have no value, and one that has. -/
  | settings (switches : List Setting) (last : Option (Setting × Text))
  /-- There is a word too many. -/
  | stray
  /-- A setting is not understood. -/
  | unclear
  deriving DecidableEq

namespace Request

/-- What is left of an argument: nothing of two hyphens. -/
def remains (name : Text) : Option Text := if name = "--".toList then none else some name

/-- What the words of a command line ask for in order, up to a setting that is not understood. A
separator must stand in front of an argument or directly behind one; one in front is dropped in
place of the hyphens of the argument. -/
def ofWords : List Word → List Request
  | [] => []
  | .stray :: words => stray :: ofWords words
  | .separator :: .argument name :: words => schema (some name) :: ofWords words
  | [.separator] => [stray]
  | .separator :: words => ofWords words
  | .argument name :: .separator :: words => schema (remains name) :: ofWords words
  | .argument name :: words => schema (remains name) :: ofWords words
  | .setting setting value isLetter :: words =>
    match lettersOfWord setting value isLetter, words with
    | .error _, _ => [unclear]
    | .ok ⟨switches, none⟩, words => settings switches none :: ofWords words
    | .ok ⟨switches, some (last, some value)⟩, words =>
      settings switches (some (last, value)) :: ofWords words
    | .ok ⟨switches, some (last, none)⟩, .argument value :: words =>
      settings switches (some (last, value)) :: ofWords words
    | .ok ⟨_, some (_, none)⟩, _ => [unclear]

end Request

/-- What was read of a command line so far. -/
structure Draft where
  schemas : List (Option Text)
  preferences : Preferences
  /-- Whether there was a word too many. -/
  hasStray : Bool

namespace Draft

/-- The draft with one more argument. -/
def addSchema (draft : Draft) (name : Option Text) : Draft :=
  if draft.schemas.length < 2 then { draft with schemas := draft.schemas ++ [name] }
  else { draft with hasStray := true }

/-- The draft with settings that have no value, and with one that has. -/
def apply (rule : HyphenRule) (draft : Draft) (switches : List Setting)
    (last : Option (Setting × Text)) : Except Refusal Draft := do
  let preferences ← draft.preferences.switchAllOn switches
  match last with
  | none => return { draft with preferences }
  | some (setting, value) =>
    return { draft with preferences := ← preferences.set rule setting value }

/-- The draft with what is asked for in one more place. -/
def add (rule : HyphenRule) (draft : Draft) : Request → Except Refusal Draft
  | .schema name => .ok (draft.addSchema name)
  | .settings switches last => draft.apply rule switches last
  | .stray => .ok { draft with hasStray := true }
  | .unclear => .error .usage

end Draft

/-- What the words of a command line say. -/
def Arguments.ofWords (rule : HyphenRule) (texts : List Text) : Except Refusal Arguments := do
  let words ← Word.ofTexts texts
  let draft ← (Request.ofWords words).foldlM (Draft.add rule) ⟨[], .default, false⟩
  match draft.schemas, draft.hasStray with
  | [first, second], false => return { first, second, preferences := draft.preferences }
  | _, _ => throw .usage

end SchemaMigration
