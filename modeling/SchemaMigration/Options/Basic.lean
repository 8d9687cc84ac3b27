import SchemaMigration.Options.Rule

/-!
# Options

The switches that change how schemas are read, compared and reported.

## Main Definitions

* `Options` - all switches, the table filter and the tolerance rules
* `Options.selects` - whether a table is looked at
* `Options.normalizeColumn`, `Options.normalizeTableOptions` - what is compared
* `Options.selection`, `Options.normalization` - the same, or why it cannot be told
* `Options.describe` - the switches that are not at their defaults
-/

namespace SchemaMigration

open Text

/-- A pattern that the names of the tables to be compared must match, with its text. -/
structure TableFilter where
  source : Text
  pattern : Pattern
  deriving DecidableEq

/-- How schemas are read, compared and reported. -/
structure Options where
  /-- Differences that tolerance rules remove do not count. -/
  tolerant : Bool
  /-- Old definitions are not shown as comments. -/
  noOldDefs : Bool
  /-- Only objects that both schemas have are reported. -/
  onlyBoth : Bool
  /-- No table, view or routine is dropped for being missing from the second schema. -/
  keepOldTables : Bool
  /-- Only tables of matching names are compared. -/
  tableFilter : Option TableFilter
  /-- Each change has a header for machines. -/
  listTables : Bool
  /-- The references between tables are listed, and nothing is compared. -/
  refs : Bool
  /-- Backquotes around identifiers are kept. -/
  saveQuotes : Bool
  rules : List Rule
  deriving DecidableEq

namespace Options

/-- The options without any switch on. -/
def default : Options where
  tolerant := false
  noOldDefs := false
  onlyBoth := false
  keepOldTables := false
  tableFilter := none
  listTables := false
  refs := false
  saveQuotes := false
  rules := defaultRules

/-- Whether a table is compared; an empty filter lets all pass. -/
def selects (options : Options) (table : Text) : Bool :=
  match options.tableFilter with
  | none => true
  | some filter => filter.source.isEmpty || filter.pattern.occursIn table

/-- Whether a table is compared, or why that cannot be told. -/
def selection (options : Options) (table : Text) : Except Breakage Bool :=
  match options.tableFilter with
  | none => .ok true
  | some filter => if filter.source.isEmpty then .ok true else filter.pattern.search table

/-- The rules of a scope. -/
def rulesOf (options : Options) (scope : Scope) : List Rule :=
  options.rules.filter (·.scope = scope)

/-- A text with the rules of a scope applied in order, if differences are tolerated. -/
def normalize (options : Options) (scope : Scope) (text : Text) : Text :=
  if options.tolerant then
    trim ((options.rulesOf scope).foldl (fun text rule => rule.apply text) text)
  else text

/-- A text with the rules of a scope applied in order, or why one cannot be applied. -/
def normalization (options : Options) (scope : Scope) (text : Text) : Except Breakage Text :=
  if options.tolerant then do
    return trim (← (options.rulesOf scope).foldlM (fun text rule => rule.result text) text)
  else .ok text

/-- What of a column definition is compared. -/
def normalizeColumn (options : Options) : Text → Text := options.normalize .column

/-- What of the options of a table is compared. -/
def normalizeTableOptions (options : Options) : Text → Text := options.normalize .options

/-- Whether objects missing from the second schema are dropped. -/
def dropsMissing (options : Options) : Bool := ! (options.onlyBoth || options.keepOldTables)

/-- The switches that are not at their defaults, as the head of a report lists them. -/
def describe (options : Options) : Text :=
  let switch := fun (name : Text) (on : Bool) => if on then [name] else []
  join ", " (
    switch "tolerant" options.tolerant ++
    switch "no-old-defs" options.noOldDefs ++
    switch "only-both" options.onlyBoth ++
    switch "keep-old-tables" options.keepOldTables ++
    (options.tableFilter.map fun filter => "table-re=".toList ++ filter.source).toList ++
    switch "list-tables" options.listTables ++
    switch "refs" options.refs ++
    switch "save-quotes" options.saveQuotes)

end Options

end SchemaMigration
