import SchemaMigration.Proofs.Dump.LineComment
import SchemaMigration.Proofs.Schema.Step

/-!
# Dumps one behind the other

Statements end at the ends of lines. So a dump that leaves nothing open keeps its definitions if
another dump follows it on a new line, and those of the other dump follow them; a table that
follows is added to the schema. Without a new line the last statement of the one dump and the
first one of the other are one statement.

## Main Definitions

* `Dump.IsComplete` - a dump behind which no quote, comment or statement is open
* `Dump.recognised_append` - the definitions of two dumps, one behind the other
* `Schema.DefinesTable` - a dump that is the definition of one table
* `Schema.parse_append_table` - a table that follows a dump is added to its schema
* `Schema.parse_append_tables` - the schema of two tables
-/

namespace SchemaMigration

open Text

namespace Dump

variable {keepQuotes : Bool} {front gap rest : Text}

/-- A dump behind which no quote, no comment and no statement is open. -/
structure IsComplete (keepQuotes : Bool) (text : Text) : Prop extends IsClosed keepQuotes text where
  region : endRegion keepQuotes text = .code ∨ endRegion keepQuotes text = .line
  endsStatement : EndsStatement (decode keepQuotes text)

/-- Spaces and newlines in front of a dump stay there. -/
theorem decode_append_of_isLineSpace (hgap : ∀ c ∈ gap, Definition.isLineSpace c = true)
    (keepQuotes : Bool) (text : Text) :
    decode keepQuotes (gap ++ text) = gap ++ decode keepQuotes text := by
  induction gap with
  | nil => rfl
  | cons c gap ih =>
      have hspace : c = '\n' ∨ c = ' ' ∨ c = '\t' := by
        simpa [Definition.isLineSpace, or_assoc] using hgap c (by simp)
      obtain ⟨hreturn, hquote, hslash, hhash, hhyphen, hopens⟩ : c ≠ '\r' ∧ c ≠ '\x60' ∧ c ≠ '/' ∧
          c ≠ '#' ∧ c ≠ '-' ∧ isQuote c = false := by
        rcases hspace with rfl | rfl | rfl <;> decide
      have hunify (text : Text) : unifyNewlines (c :: text) = c :: unifyNewlines text := by
        rw [unifyNewlines]
        exact fun _ heq => absurd heq hreturn
      rw [List.cons_append, decode_eq, hunify, bare_cons hquote,
        stripLineComments_cons hslash hhash hhyphen, hopens, openBlockComments_cons hslash,
        List.cons_append, ← ih fun d hd => hgap d (List.mem_cons_of_mem _ hd), decode_eq]
      rfl

/-- White space with a newline is spaces up to the newline. -/
theorem exists_newline_of_takeWhile (h : '\n' ∈ rest.takeWhile Definition.isLineSpace) :
    ∃ pad behind, IsSpaces pad ∧ rest = pad ++ '\n' :: behind := by
  obtain ⟨pad, more, hspace, hpad⟩ := List.eq_append_cons_of_mem h
  refine ⟨pad, more ++ rest.dropWhile Definition.isLineSpace, ?_, ?_⟩
  · intro c hc
    have hline : Definition.isLineSpace c = true :=
      List.mem_takeWhile_imp (hspace ▸ List.mem_append_left _ hc)
    have hne : c ≠ '\n' := fun heq => hpad (heq ▸ hc)
    simpa [Definition.isLineSpace, hne] using hline
  · rw [← List.cons_append, ← List.append_assoc, ← hspace, List.takeWhile_append_dropWhile]

/-- The definitions of a dump on a new line follow those of a complete dump. -/
theorem recognised_append (h : IsComplete keepQuotes front) (hlast : front.getLast? ≠ some '\r')
    (hgap : ∀ c ∈ gap, Definition.isLineSpace c = true)
    (hnewline : '\n' ∈ (gap ++ rest).takeWhile Definition.isLineSpace) :
    recognised (statements (decode keepQuotes (front ++ (gap ++ rest))))
      = recognised (statements (decode keepQuotes front))
        ++ recognised (statements (decode keepQuotes rest)) := by
  obtain ⟨pad, behind, hpad, heq⟩ := exists_newline_of_takeWhile hnewline
  have hbreak : EndsLine keepQuotes front ('\n' :: behind) :=
    ⟨h.region, .inr (by simp [unifyNewlines]), fun hreturn => absurd hreturn hlast⟩
  have hpaired : PairsApart keepQuotes pad ('\n' :: behind) :=
    .inl (isPaired_of_notMem (.inl fun hmem => absurd (hpad _ hmem) (by decide)))
  have hfollows : (endRegion keepQuotes front).IsFollowedBy '\n' := .inl ⟨rfl, h.region⟩
  -- what stands in front of the visible part of the other dump does not matter for it
  have hblank {blank : Text} (hblank : ∀ c ∈ blank, Definition.isLineSpace c = true)
      (text : Text) : recognised (statements (decode keepQuotes (blank ++ text)))
        = recognised (statements (decode keepQuotes text)) := by
    rw [decode_append_of_isLineSpace hblank]
    refine recognised_append_blank (fun c hc => ?_) _
    have hspace : c = '\n' ∨ c = ' ' ∨ c = '\t' := by
      simpa [Definition.isLineSpace, or_assoc] using hblank c hc
    rcases hspace with rfl | rfl | rfl <;> decide
  have hrest : recognised (statements (decode keepQuotes behind))
      = recognised (statements (decode keepQuotes rest)) := by
    rw [← hblank hgap rest, heq, List.append_cons]
    refine (hblank (fun c hc => ?_) behind).symm
    rcases List.mem_append.mp hc with hc | hc
    · rcases hpad c hc with rfl | rfl <;> decide
    · obtain rfl : c = '\n' := by simpa using hc
      decide
  rw [heq, statements_append_trailer hbreak (isTrailer_of_isSpaces hpad) (.inl h.isPaired) hpaired,
    decode_append h.toIsClosed (fun _ => hlast) hfollows,
    show '\n' :: behind = ['\n'] ++ behind from rfl, decode_append_of_isLineSpace (by decide),
    List.singleton_append, statements_append h.endsStatement, recognised, List.filterMap_append,
    ← recognised, ← recognised, hrest]

/-- The definitions of a dump that has some. -/
theorem definitions_eq_recognised {text : Text}
    (h : recognised (statements (decode keepQuotes text)) ≠ []) :
    definitions keepQuotes text = recognised (statements (decode keepQuotes text)) := by
  rw [definitions, if_neg (by simp [h])]

end Dump

namespace Schema

open Dump

variable {keepQuotes : Bool} {front gap text : Text}

/-- A dump that is the definition of one table. -/
def DefinesTable (keepQuotes : Bool) (text : Text) (table : Table) : Prop :=
  ∃ definition, definitions keepQuotes text = [definition] ∧
    definition.subject = some (.create, .table) ∧ Table.parse definition.text = .ok table

/-- The definitions of a dump are all recognised if it has a schema. -/
theorem definitions_of_parse {source : Text} {schema : Schema}
    (h : parse keepQuotes source text = .ok schema) :
    definitions keepQuotes text = recognised (statements (decode keepQuotes text)) := by
  rw [parse, definitions] at h
  rw [definitions]
  split at h
  · cases h
  · rename_i hrecognised
    rw [if_neg hrecognised]

theorem DefinesTable.steps {table : Table} (h : DefinesTable keepQuotes text table)
    (schema : Schema) : schema.steps (definitions keepQuotes text) = schema.addTable table := by
  obtain ⟨definition, hdefinitions, hsubject, hparse⟩ := h
  rw [hdefinitions, Schema.steps, Schema.step, hsubject]
  simp only [hparse]
  cases schema.addTable table <;> rfl

/-- The schema of a dump that is the definition of one table. -/
theorem DefinesTable.parse_eq {table : Table} (h : DefinesTable keepQuotes text table)
    (source : Text) :
    parse keepQuotes source text = .ok { empty source with tables := [table] } := by
  rw [parse, h.steps]
  rfl

/-- A table that follows a complete dump on a new line is added to the schema of the dump. -/
theorem parse_append_table {source : Text} {schema : Schema} {table : Table}
    (hfront : IsComplete keepQuotes front) (hlast : front.getLast? ≠ some '\r')
    (hgap : ∀ c ∈ gap, Definition.isLineSpace c = true)
    (hnewline : '\n' ∈ (gap ++ text).takeWhile Definition.isLineSpace)
    (hschema : parse keepQuotes source front = .ok schema)
    (htable : DefinesTable keepQuotes text table) :
    parse keepQuotes source (front ++ (gap ++ text)) = schema.addTable table := by
  have happend := recognised_append hfront hlast hgap hnewline
  have hrecognised : recognised (statements (decode keepQuotes text)) ≠ [] := by
    rw [← definitions_of_parse (htable.parse_eq source)]
    obtain ⟨definition, hdefinitions, -⟩ := htable
    simp [hdefinitions]
  have hdefinitions : definitions keepQuotes (front ++ (gap ++ text))
      = definitions keepQuotes front ++ definitions keepQuotes text := by
    rw [definitions_of_parse hschema, definitions_eq_recognised hrecognised, ← happend]
    refine definitions_eq_recognised ?_
    rw [happend]
    exact List.append_ne_nil_of_right_ne_nil _ hrecognised
  rw [parse] at hschema
  rw [parse, hdefinitions, steps_append, hschema]
  exact htable.steps schema

/-- Two tables of different names, one behind the other, are both in the schema, each as it is on
its own. The first one ends in a semicolon that ends its statement, and the second one begins on a
new line. -/
theorem parse_append_tables {first second : Text} {table other : Table}
    (hfirst : DefinesTable keepQuotes first table) (hsecond : DefinesTable keepQuotes second other)
    (hname : table.name ≠ other.name) (hlast : first.getLast? = some ';')
    (hcomplete : IsComplete keepQuotes first)
    (hgap : ∀ c ∈ gap, Definition.isLineSpace c = true)
    (hnewline : '\n' ∈ (gap ++ second).takeWhile Definition.isLineSpace) (source : Text) :
    parse keepQuotes source (first ++ (gap ++ second))
      = .ok { empty source with tables := [table, other] } := by
  rw [parse_append_table hcomplete (by simp [hlast]) hgap hnewline (hfirst.parse_eq source) hsecond,
    addTable, if_neg]
  · rfl
  · simp [table?, view?, empty, hname]

/-- A table with a comment that has a quote, two newlines, and a table with a key and options. -/
theorem parse_append_tables_commented :
    parse false [] ("CREATE TABLE \x60a\x60 (\n  \x60x\x60 int -- it's\n);".toList ++
        (" \n\n".toList ++ "CREATE TABLE b (\n  y int,\n  KEY y (y)\n) ENGINE=InnoDB;".toList))
      = .ok {
          empty [] with
          tables := [
            { name := "a", columns := [⟨"x", "int", 0⟩], indexes := [], primaryKey := none,
              foreignKeys := [], checks := [], options := [],
              definition := "CREATE TABLE a (\n  x int\n);" },
            { name := "b", columns := [⟨"y", "int", 0⟩], indexes := [⟨"y", .plain, ["y"], []⟩],
              primaryKey := none, foreignKeys := [], checks := [], options := "ENGINE=InnoDB",
              definition := "CREATE TABLE b (\n  y int,\n  KEY y (y)\n) ENGINE=InnoDB;" }] } := by
  have hcomplete :
      IsComplete false "CREATE TABLE \x60a\x60 (\n  \x60x\x60 int -- it's\n);".toList :=
    { isPaired := .inl (by decide)
      isOrderly := isOrderly_of_not_isInfix (by decide)
      region := .inl (by decide)
      endsStatement := by decide +kernel }
  refine parse_append_tables ?_ ?_ (by decide) rfl hcomplete (by decide) (by decide) []
  · exact ⟨_, rfl, by decide +kernel, by decide +kernel⟩
  · exact ⟨_, rfl, by decide +kernel, by decide +kernel⟩

end Schema

end SchemaMigration
