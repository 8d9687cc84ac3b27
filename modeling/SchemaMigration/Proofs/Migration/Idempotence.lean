import SchemaMigration.Report
import SchemaMigration.Proofs.Migration.Agreement

/-!
# A schema compared with itself

Nothing differs between a schema and itself. So the comparison of a schema with itself is empty
just if every key that the server insists on is there, and otherwise it adds guards and drops them
again.

## Main Definitions

* `Report.render_eq_nil_iff` - when a report is empty
* `statements_unchanged` - when the comparison of a schema with itself is empty
-/

namespace SchemaMigration

/-- A statement runs when its step does. -/
theorem Step.statement_phase (step : Step) : step.statement.phase = step.phase := by
  cases step <;> rfl

/-- A report is empty just if there are no statements. -/
theorem Report.render_eq_nil_iff {statements : List Statement} {options : Options}
    {stamp : Report.Stamp} {oldSource newSource : Text} :
    Report.render statements options stamp oldSource newSource = [] ↔ statements = [] := by
  cases statements with
  | nil => simp [Report.render]
  | cons statement statements => simp [Report.render, Report.renderStatement]

/-- The comparison of a schema with itself, and its report, are empty just if every key that the
server insists on is there. Otherwise guards are added and dropped again, and that is all. -/
theorem statements_unchanged {keepQuotes : Bool} {source text : Text} {schema : Schema}
    (hparse : Schema.parse keepQuotes source text = .ok schema) (options : Options) (now : Text) :
    ((⟨schema, schema, options⟩ : SchemaComparison).statements = [] ↔ schema.IsIndexed options) ∧
    (options.refs = false → (Report.ofSchemas ⟨schema, schema, options⟩ now = [] ↔
      schema.IsIndexed options)) ∧
    ∀ statement ∈ (⟨schema, schema, options⟩ : SchemaComparison).statements,
      statement.phase = .guardIndex ∨ statement.phase = .dropGuardIndex := by
  have hschema : schema.WellFormed := Schema.wellFormed_of_parse hparse
  have hagrees : schema.Agrees schema := Schema.Agrees.refl schema
  let c : SchemaComparison := ⟨schema, schema, options⟩
  have hstatements : c.statements = [] ↔ schema.IsIndexed options :=
    SchemaComparison.statements_eq_nil_iff_of_agrees (c := c) hagrees hschema hschema
  refine ⟨hstatements, ?_, ?_⟩
  · intro hrefs
    rw [← hstatements, Report.ofSchemas, if_neg (by simp [hrefs]), Report.render_eq_nil_iff]
  · intro statement hstatement
    obtain ⟨step, hstep, rfl⟩ := List.mem_map.mp hstatement
    have hchange : step ∈ c.tableChanges := by
      rw [← SchemaComparison.foundSteps_of_agrees (c := c) hagrees hschema hschema]
      exact Phase.mem_arrange.mp hstep
    rw [Step.statement_phase]
    exact SchemaComparison.phase_of_mem_tableChanges (c := c) hagrees hschema hschema hchange

/-- A table that a foreign key refers to. -/
def keyedText : Text :=
  "CREATE TABLE parent (\n  id int,\n  PRIMARY KEY (id)\n);"

/-- A table with that foreign key, and no key for its column. -/
def keylessText : Text :=
  "CREATE TABLE child (\n  parent_id int,\n" ++
  "  CONSTRAINT f FOREIGN KEY (parent_id) REFERENCES parent (id)\n);"

/-- A schema of these two tables. -/
def keylessSchema : Schema where
  tables := [
    { name := "parent", columns := [⟨"id", "int", 0⟩], indexes := []
      primaryKey := some ⟨["id"], []⟩, foreignKeys := [], checks := [], options := []
      definition := keyedText },
    { name := "child", columns := [⟨"parent_id", "int", 0⟩], indexes := [], primaryKey := none
      foreignKeys := [⟨"f", ["parent_id"], "parent", ["id"], []⟩], checks := []
      options := [], definition := keylessText }]
  views := []
  routines := []
  source := []

/-- Compared with itself it gets a guard and loses it again. -/
theorem statements_unchanged_keyless :
    (⟨keylessSchema, keylessSchema, .default⟩ : SchemaComparison).statements ≠ [] ∧
    Report.ofSchemas ⟨keylessSchema, keylessSchema, .default⟩ [] ≠ [] ∧
    ∀ statement ∈ (⟨keylessSchema, keylessSchema, .default⟩ : SchemaComparison).statements,
      statement.phase = .guardIndex ∨ statement.phase = .dropGuardIndex := by
  obtain ⟨hstatements, hreport, hphases⟩ := statements_unchanged
    (show Schema.parse false [] (keyedText ++ "\n" ++ keylessText) = .ok keylessSchema by
      decide +kernel) .default []
  have hopen : ¬ keylessSchema.IsIndexed .default := by
    intro hindexed
    have hserved := hindexed.foreignKeys keylessSchema.tables[1] (List.getElem_mem _) (by decide)
      _ (List.mem_singleton.mpr rfl) (by decide +kernel)
    exact absurd hserved (by decide +kernel)
  exact ⟨fun hnone => hopen (hstatements.mp hnone),
    fun hnone => hopen ((hreport rfl).mp hnone), hphases⟩

end SchemaMigration
