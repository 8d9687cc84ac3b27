import SchemaMigration.Pattern.Substitution

/-!
# Tolerance rules

In tolerant mode, differences that a rule removes from both sides do not count. A rule
replaces what a pattern matches, letter case ignored, in column definitions or in table
options.

## Main Definitions

* `Scope` - where a rule applies
* `Rule` - a rule with its pattern and template
* `Rule.make` - the rule of the texts it is written with
* `Rule.result`, `Rule.apply` - a text with what the rule matches replaced
* `defaultRules` - the rules that are always there
-/

namespace SchemaMigration

open Text

/-- Where a tolerance rule applies. -/
inductive Scope
  | column
  | options
  deriving DecidableEq

namespace Scope

/-- The word for a scope. -/
def word : Scope → Text
  | column => "column"
  | options => "options"

/-- The scope that a word names. -/
def ofWord? (text : Text) : Option Scope := [column, options].find? (·.word == text)

end Scope

/-- Why texts make no tolerance rule. -/
inductive RuleError
  | unknownScope (rule scope : Text)
  | badPattern (rule pattern : Text) (fault : PatternFault)
  deriving DecidableEq

/-- What went wrong, in words. Some faults of patterns are reported without naming the rule,
and some are not explained. -/
def RuleError.message? : RuleError → Option Text
  | unknownScope rule scope =>
    some ("Unknown rule scope for " ++ rule ++ ": " ++ quoted scope ++
      " (expected one of ('column', 'options'))")
  | badPattern rule pattern fault =>
    if fault.cause.isUnexplained then none
    else if fault.cause.isPlain then some (fault.message pattern)
    else some ("Invalid pattern for rule " ++ rule ++ ": " ++ fault.message pattern)

/-- A replacement applied to both sides of a comparison. -/
structure Rule where
  name : Text
  scope : Scope
  /-- The pattern as written. -/
  source : Text
  pattern : Pattern
  /-- The replacement as written. -/
  replacement : Text
  deriving DecidableEq

namespace Rule

/-- The rule of a name, the word for a scope, a pattern and a replacement. -/
def make (name scope source replacement : Text) : Except RuleError Rule :=
  match Scope.ofWord? scope with
  | none => .error (.unknownScope name scope)
  | some scope =>
    match Pattern.parse [] source with
    | .error fault => .error (.badPattern name source fault)
    | .ok _ =>
      match Pattern.parse ['i'] source with
      | .error fault => .error (.badPattern name source fault)
      | .ok pattern => .ok { name, scope, source, pattern, replacement }

/-- The replacement as a template, or why it is none for the pattern. -/
def template (rule : Rule) : Except PatternFault Template :=
  Template.parse rule.pattern rule.replacement

/-- A text with what the rule matches replaced, or why that cannot be done. -/
def result (rule : Rule) (text : Text) : Except Breakage Text :=
  match rule.template with
  | .ok template => rule.pattern.substitute template text
  | .error fault => .error (.template fault)

/-- A text with what the rule matches replaced; where that cannot be done nothing is. -/
def apply (rule : Rule) (text : Text) : Text :=
  match rule.result text with
  | .ok changed => changed
  | .error _ => text

end Rule

/-- The texts of the rules that are always there: name, scope, pattern, replacement. -/
def defaultRuleTexts : List (Text × Text × Text × Text) :=
  [("column-collate", "column", " COLLATE [\\w_]+", ""),
   ("integer-display-width", "column",
     "\\b(tinyint|smallint|mediumint|int|integer|bigint)\\(\\d+\\)", "\\1"),
   ("float-precision", "column", "\\b(float|double|real)\\(\\d+,\\d+\\)", "\\1"),
   ("default-empty-not-null", "column", " DEFAULT '' NOT NULL$", ""),
   ("trailing-not-null", "column", " NOT NULL$", ""),
   ("auto-increment-counter", "options", " ?\\bAUTO_INCREMENT=\\d+", ""),
   ("table-collate", "options", " ?\\bCOLLATE=[\\w_]+", "")]

/-- The rules that are always there. -/
def defaultRules : List Rule :=
  defaultRuleTexts.filterMap fun (name, scope, source, replacement) =>
    (Rule.make name scope source replacement).toOption

end SchemaMigration
