import SchemaMigration.Options.Basic
import SchemaMigration.Config.Value

/-!
# Options from a configuration

A configuration is a mapping from option names to values. Names may be written with hyphens
or underscores. Tolerance rules are added to those already there.

## Main Definitions

* `OptionsError` - why a configuration cannot be applied
* `Store.rules` - the tolerance rules that a value describes
* `Options.update`, `Options.configured` - options changed as a configuration says
* `Options.withTableRe` - options with another table filter
-/

namespace SchemaMigration

open Text

/-- Why a configuration cannot be applied. -/
inductive OptionsError
  /-- A rule is something else than a mapping; the text shows what. -/
  | ruleNotMapping (shown : Text)
  | ruleMissingKeys (keys : List Text) (shown : Text)
  | rule (error : RuleError)
  | unknownOption (name : Text)
  | badTableRe (source : Text) (fault : PatternFault)
  /-- The file of the given name holds something else than a mapping. -/
  | notMapping (path : Text)
  /-- A whole number has too many digits to be written. -/
  | numberTooLong
  /-- The rules are a value that cannot be taken apart. -/
  | rulesNotSeveral
  /-- The configuration holds something, but no entries. -/
  | noEntries
  deriving DecidableEq

/-- A list of texts as messages show it. -/
def describeTexts (texts : List Text) : Text := "[" ++ join ", " (texts.map quoted) ++ "]"

/-- What went wrong, in words. That rules cannot be taken apart, that there are no entries, or
that a pattern counts further or nests deeper than anything can, is not explained. -/
def OptionsError.message? : OptionsError → Option Text
  | ruleNotMapping shown => some ("Tolerance rule must be a mapping, got: " ++ shown)
  | ruleMissingKeys keys shown =>
    some ("Tolerance rule missing keys " ++ describeTexts keys ++ ": " ++ shown)
  | rule error => error.message?
  | unknownOption name => some ("Unknown option in config: " ++ name)
  | badTableRe source fault =>
    if fault.cause.isUnexplained then none
    else if fault.cause.isPlain then some (fault.message source)
    else some ("Invalid table-re " ++ quoted source ++ ": " ++ fault.message source)
  | notMapping path => some ("Config file " ++ path ++ " must contain a mapping")
  | numberTooLong => some (tooManyDigits none)
  | rulesNotSeveral | noEntries => none

namespace Store

/-- A value as messages show it, if it can be shown. -/
def shown (store : Store) (value : Value) : Except OptionsError Text :=
  match store.describe? value with
  | some text => .ok text
  | none => .error .numberTooLong

/-- A value as the text of a setting, if it can be written. -/
def setting (store : Store) (value : Value) : Except OptionsError Text :=
  match store.asText? value with
  | some text => .ok text
  | none => .error .numberTooLong

/-- The text of an entry of a mapping, or another one if there is no such entry. -/
def settingOf (store : Store) (entries : List (Value × Value)) (key fallback : Text) :
    Except OptionsError Text :=
  match entryNamed? key entries with
  | some value => store.setting value
  | none => .ok fallback

/-- The rule that a value of a configuration describes. -/
def rule (store : Store) (value : Value) : Except OptionsError Rule :=
  match store.entries? value with
  | none => do throw (.ruleNotMapping (← store.shown value))
  | some entries => do
    let required : List Text := ["name", "pattern"]
    let missing := required.filter fun key => (entryNamed? key entries).isNone
    unless missing.isEmpty do throw (.ruleMissingKeys missing (← store.shown value))
    let name ← store.settingOf entries "name" []
    let scope ← store.settingOf entries "scope" Scope.column.word
    let pattern ← store.settingOf entries "pattern" []
    let replacement ← store.settingOf entries "replacement" []
    (Rule.make name scope pattern replacement).mapError .rule

/-- The rules that a value of a configuration describes. -/
def rules (store : Store) (value : Value) : Except OptionsError (List Rule) :=
  if ! store.isTrue value then .ok []
  else match store.members? value with
    | some members => members.mapM store.rule
    | none => .error .rulesNotSeveral

end Store

namespace Options

/-- Options that are being changed. The text of the table filter is read only at the end,
when the last setting of it is known. -/
structure Draft where
  options : Options
  tableRe : Option Text
  rules : List Rule

/-- Options with the text of another table filter, or with none. -/
def withTableRe (options : Options) : Option Text → Except OptionsError Options
  | none => .ok { options with tableFilter := none }
  | some source =>
    match Pattern.parse [] source with
    | .error fault => .error (.badTableRe source fault)
    | .ok pattern => .ok { options with tableFilter := some { source, pattern } }

namespace Draft

/-- The draft with one setting changed. -/
def set (draft : Draft) (store : Store) (key value : Value) : Except OptionsError Draft := do
  let written ← store.setting key
  let name := written.map fun c => if c = '-' then '_' else c
  let options := draft.options
  let on := store.isTrue value
  if name = "tolerance_rules".toList then
    return { draft with rules := draft.rules ++ (← store.rules value) }
  else if name = "tolerant".toList then
    return { draft with options := { options with tolerant := on } }
  else if name = "no_old_defs".toList then
    return { draft with options := { options with noOldDefs := on } }
  else if name = "only_both".toList then
    return { draft with options := { options with onlyBoth := on } }
  else if name = "keep_old_tables".toList then
    return { draft with options := { options with keepOldTables := on } }
  else if name = "table_re".toList then
    match value with
    | .null => return { draft with tableRe := none }
    | value => return { draft with tableRe := some (← store.setting value) }
  else if name = "list_tables".toList then
    return { draft with options := { options with listTables := on } }
  else if name = "refs".toList then
    return { draft with options := { options with refs := on } }
  else if name = "save_quotes".toList then
    return { draft with options := { options with saveQuotes := on } }
  else throw (.unknownOption written)

end Draft

/-- Options changed as the entries of a configuration say, in order. -/
def update (base : Options) (store : Store) (entries : List (Value × Value)) :
    Except OptionsError Options := do
  let start : Draft := { options := base, tableRe := base.tableFilter.map (·.source), rules := [] }
  let draft ← entries.foldlM (fun draft (key, value) => draft.set store key value) start
  { draft.options with rules := base.rules ++ draft.rules }.withTableRe draft.tableRe

/-- Options changed as a configuration says. An empty value of any kind changes nothing. -/
def configured (base : Options) (configuration : Configuration) :
    Except OptionsError Options :=
  let store := configuration.store
  if store.isTrue configuration.root then
    match store.entries? configuration.root with
    | some entries => base.update store entries
    | none => .error .noEntries
  else base.update store []

end Options

end SchemaMigration
