import SchemaMigration.Options.Config
import SchemaMigration.Yaml.Document

/-!
# Options from a file

A file with options holds one YAML document: a mapping, or nothing. What reads the document is
given from outside; the reader of this library is one that can be given.

## Main Definitions

* `ConfigError` - why a file gives no options
* `DocumentReader` - what makes a configuration of the text of a document
* `Options.ofDocument` - options changed as the text of a file says
* `Options.ofYaml` - the same, with the reader of this library
-/

namespace SchemaMigration

open Text

/-- Why a file gives no options. -/
inductive ConfigError
  | yaml (fault : Yaml.Fault)
  | options (error : OptionsError)
  deriving DecidableEq

/-- What went wrong, in words, if it is explained; that a text is no document is not. -/
def ConfigError.message? : ConfigError → Option Text
  | yaml (.range message) => some message
  | yaml _ => none
  | options error => error.message?

/-- What makes a configuration of the text of a document. -/
abbrev DocumentReader := Text → Except Yaml.Fault Configuration

/-- Options changed as the text of a file says; `path` is the name of that file. -/
def Options.ofDocument (reader : DocumentReader) (base : Options) (path text : Text) :
    Except ConfigError Options := do
  let configuration ← (reader text).mapError .yaml
  let store := configuration.store
  match configuration.root, store.entries? configuration.root with
  | .null, _ => (base.update store []).mapError .options
  | _, some entries => (base.update store entries).mapError .options
  | _, none => throw (.options (.notMapping path))

/-- Options changed as the text of a file says that the reader of this library reads. -/
def Options.ofYaml (base : Options) (path text : Text) : Except ConfigError Options :=
  base.ofDocument Configuration.ofYaml path text

end SchemaMigration
