import SchemaMigration.Proofs.Migration.Guard
import SchemaMigration.Proofs.Migration.SchemaChanges
import SchemaMigration.Proofs.Schema.Remainder
import SchemaMigration.Proofs.Table.OneLine

/-!
# Comments of a migration

A statement that takes something away from a table has the old definition behind it as a comment,
and one that adds the guard of an auto-increment column says why. No other statement has a comment.
As tables are read line by line, a statement with a comment is written on one line.

## Main Definitions

* `TableComparison.Comments` - which changes have a comment, and what it says
* `TableComparison.comment_cases` - the steps of a comparison have such comments or none
* `SchemaComparison.isOneLine_comment`, `SchemaComparison.isOneLine_sql` - a comment is on one line,
  and so is its statement
-/

namespace SchemaMigration

open Text

/-! ## Tables -/

namespace TableComparison

variable (c : TableComparison)

/-- A change of a table and the comment on it. -/
inductive Comments : TableChange → Text → Prop
  | foreignKey {key : ForeignKey} (hkey : key ∈ c.old.foreignKeys) :
      Comments (.dropForeignKey key.name) ("was " ++ key.clause)
  | check {check : CheckConstraint} (hcheck : check ∈ c.old.checks) :
      Comments (.dropCheck check.name) ("was " ++ check.describe)
  | options (clears : Bool) :
      Comments (.changeOptions clears c.targetOptions) ("was " ++ orBlank c.old.baseOptions)
  | partitioning :
      Comments (.setPartitioning c.new.partitioning) ("was " ++ orBlank c.old.partitioning)
  | guard {column : Text} (hcolumn : column ∈ c.old.columnNames) :
      Comments (.addGuard (c.columnGuard column).name [column])
        "auto columns must always be indexed"
  | index {index : Index} (hindex : index ∈ c.old.indexes) :
      Comments (.dropIndex index.name) ("was " ++ index.describe)
  | primaryKey {key : PrimaryKey} (hkey : key ∈ c.old.primaryKey) :
      Comments .dropPrimaryKey ("was " ++ key.describe)
  | changedColumn {column new : Column} (hcolumn : column ∈ c.old.columns)
      (hnew : new ∈ c.new.columns) :
      Comments (.changeColumn column.name new.definition) ("was " ++ column.definition)
  | droppedColumn {column : Column} (hcolumn : column ∈ c.old.columns) :
      Comments (.dropColumn column.name) ("was " ++ column.definition)

variable {c} {step : TableStep}

theorem comment_of_guardAdditions (h : step ∈ c.guardAdditions) :
    step.comment = [] ∨ c.Comments step.change step.comment := by
  obtain ⟨guard, hguard, rfl⟩ := List.mem_map.mp h
  rcases mem_guards hguard with ⟨column, hcolumn, rfl⟩ | ⟨columns, -, -, rfl⟩
  · have hcomment : (c.columnGuard column).comment =
        "auto columns must always be indexed".toList := by
      rcases c.columnGuard_cases column with h | ⟨-, -, h⟩ | ⟨-, -, h⟩ <;> rw [h] <;> rfl
    have hknown : column ∈ c.old.columnNames := by
      obtain ⟨old, hold, rfl⟩ := List.mem_map.mp hcolumn
      exact List.mem_map_of_mem (List.mem_filter.mp hold).1
    refine .inr ?_
    rw [hcomment, columnGuard_columns]
    exact .guard hknown
  · exact .inl rfl

theorem comment_of_columnChanges (h : step ∈ c.columnChanges) :
    c.Comments step.change step.comment := by
  obtain ⟨column, hcolumn, hstep⟩ := List.mem_filterMap.mp h
  obtain ⟨new, hnew, rfl⟩ := Option.map_eq_some_iff.mp hstep
  exact .changedColumn hcolumn (List.mem_of_find?_eq_some (Option.filter_eq_some_iff.mp hnew).1)

theorem comment_of_partitioningSteps (h : step ∈ c.partitioningSteps) :
    step.comment = [] ∨ c.Comments step.change step.comment := by
  rw [partitioningSteps] at h
  split at h
  · cases h
  · rcases List.mem_append.mp h with h | h <;> split at h
    · cases h
    · rw [List.mem_singleton.mp h]
      exact .inl rfl
    · cases h
    · rw [List.mem_singleton.mp h]
      exact .inr .partitioning

theorem comment_of_additionsBehind {placed : List Text} {columns : List Column}
    (h : step ∈ c.additionsBehind placed columns) : step.comment = [] := by
  induction columns generalizing placed with
  | nil => cases h
  | cons column columns ih =>
      rcases List.mem_cons.mp h with rfl | h
      · rfl
      · exact ih h

/-- The steps of a comparison have these comments or none. -/
theorem comment_cases (h : step ∈ c.steps) :
    step.comment = [] ∨ c.Comments step.change step.comment := by
  simp only [steps, List.mem_append, or_assoc] at h
  rcases h with hforeign | hcheck | hoptions | hpartitioning | hguard | hindex | hprimary |
    hchanged | hcolumn | hprimary | hindex | hdropped | hforeign | hcheck | hguard
  · obtain ⟨key, hkey, rfl⟩ := List.mem_map.mp hforeign
    exact .inr (.foreignKey (List.mem_filter.mp hkey).1)
  · obtain ⟨check, hmem, rfl⟩ := List.mem_map.mp hcheck
    exact .inr (.check (List.mem_filter.mp hmem).1)
  · rw [optionSteps] at hoptions
    split at hoptions
    · rw [List.mem_singleton.mp hoptions]
      exact .inr (.options _)
    · cases hoptions
  · exact comment_of_partitioningSteps hpartitioning
  · exact comment_of_guardAdditions hguard
  · obtain ⟨index, hmem, rfl⟩ := List.mem_map.mp hindex
    exact .inr (.index (List.mem_filter.mp hmem).1)
  · rw [primaryKeyDrops] at hprimary
    split at hprimary
    · obtain ⟨key, hkey, rfl⟩ := List.mem_map.mp hprimary
      exact .inr (.primaryKey (by simpa using hkey))
    · cases hprimary
  · exact .inr (comment_of_columnChanges hchanged)
  · exact .inl (comment_of_additionsBehind hcolumn)
  · rw [primaryKeyAdditions] at hprimary
    split at hprimary
    · obtain ⟨key, -, rfl⟩ := List.mem_map.mp hprimary
      exact .inl rfl
    · cases hprimary
  · obtain ⟨index, -, rfl⟩ := List.mem_map.mp hindex
    exact .inl rfl
  · obtain ⟨column, hmem, rfl⟩ := List.mem_map.mp hdropped
    exact .inr (.droppedColumn (List.mem_filter.mp hmem).1)
  · obtain ⟨key, -, rfl⟩ := List.mem_map.mp hforeign
    exact .inl rfl
  · obtain ⟨check, -, rfl⟩ := List.mem_map.mp hcheck
    exact .inl rfl
  · obtain ⟨guard, -, rfl⟩ := List.mem_map.mp hguard
    exact .inl rfl

/-! ## One line each -/

theorem isOneLine_orBlank {text : Text} (h : IsOneLine text) : IsOneLine (orBlank text) := by
  rw [orBlank]
  split
  · decide
  · exact h

theorem isOneLine_hashedName (column : Text) : IsOneLine (c.hashedName column) := by
  refine isOneLine_append.mpr ⟨by decide, fun hmem => ?_⟩
  obtain ⟨word, -, hword⟩ := List.mem_flatMap.mp hmem
  obtain ⟨byte, -, hbyte⟩ := List.mem_flatMap.mp hword
  have hdigit : ∀ n < 16, Nat.digitChar n ≠ '\n' := by decide
  have hlt : byte.toNat < 256 := byte.toNat_lt
  simp only [Digest.hexByte, List.mem_cons, List.not_mem_nil, or_false] at hbyte
  rcases hbyte with hnewline | hnewline <;> exact hdigit _ (by omega) hnewline.symm

theorem isOneLine_targetOptions (hnew : c.new.HasOneLineParts) : IsOneLine c.targetOptions := by
  rw [targetOptions]
  split
  · exact (hnew.baseOptions.1.of_subset (withoutCounter_sublist _).subset).trim
  · exact hnew.baseOptions.1

section

variable {change : TableChange} {comment : Text} (hold : c.old.HasOneLineParts)
  (h : c.Comments change comment)

include hold h

/-- A comment is on one line, as the old part is. -/
theorem Comments.isOneLine_comment : IsOneLine comment := by
  have hwas : IsOneLine "was ".toList := by decide
  cases h with
  | foreignKey hkey =>
      have hclause (key : ForeignKey) : key.clause =
          "CONSTRAINT ".toList ++ key.name ++ " FOREIGN KEY ".toList ++ key.describe := rfl
      obtain ⟨hname, hdescribe⟩ := hold.foreignKey _ hkey
      simp only [hclause, isOneLine_append]
      exact ⟨hwas, ⟨⟨⟨by decide, hname⟩, by decide⟩, hdescribe⟩⟩
  | check hcheck => exact isOneLine_append.mpr ⟨hwas, (hold.check _ hcheck).2⟩
  | options clears => exact isOneLine_append.mpr ⟨hwas, isOneLine_orBlank hold.baseOptions.1⟩
  | partitioning => exact isOneLine_append.mpr ⟨hwas, isOneLine_orBlank hold.baseOptions.2⟩
  | guard hcolumn => decide
  | index hindex => exact isOneLine_append.mpr ⟨hwas, (hold.index _ hindex).2⟩
  | primaryKey hkey => exact isOneLine_append.mpr ⟨hwas, hold.primaryKey _ hkey⟩
  | changedColumn hcolumn _ | droppedColumn hcolumn =>
      exact isOneLine_append.mpr ⟨hwas, (hold.column _ hcolumn).2⟩

/-- The change with the comment is on one line, as the parts of both tables are. -/
theorem Comments.isOneLine_clause (hnew : c.new.HasOneLineParts) : IsOneLine change.clause := by
  cases h with
  | foreignKey hkey => exact isOneLine_append.mpr ⟨by decide, (hold.foreignKey _ hkey).1⟩
  | check hcheck => exact isOneLine_append.mpr ⟨by decide, (hold.check _ hcheck).1⟩
  | options clears =>
      have htarget := isOneLine_targetOptions hnew
      cases clears with
      | true =>
          have hclause : IsOneLine ("COMMENT='' ".toList ++ c.targetOptions) :=
            isOneLine_append.mpr ⟨by decide, htarget⟩
          exact hclause.of_subset (List.rdropWhile_prefix isBlank _).subset
      | false => exact htarget
  | partitioning => exact hnew.baseOptions.2
  | @guard column hcolumn =>
      have hname : IsOneLine column := by
        obtain ⟨old, hmem, rfl⟩ := List.mem_map.mp hcolumn
        exact (hold.column old hmem).1
      have hparts : IsOneLine (partsText [column]) := isOneLine_partsText (by simpa using hname)
      rcases c.columnGuard_cases column with h | ⟨-, -, h⟩ | ⟨-, -, h⟩ <;> rw [h]
      · have hclause (name : Text) : (TableChange.addGuard (some name) [column]).clause =
            "ADD INDEX ".toList ++ name ++ " ".toList ++ partsText [column] := rfl
        simp only [hclause, isOneLine_append]
        exact ⟨⟨⟨by decide, isOneLine_hashedName column⟩, by decide⟩, hparts⟩
      · exact isOneLine_append.mpr ⟨isOneLine_append.mpr ⟨by decide, hname⟩, by decide⟩
      · exact isOneLine_append.mpr ⟨isOneLine_append.mpr ⟨by decide, hname⟩, by decide⟩
  | index hindex => exact isOneLine_append.mpr ⟨by decide, (hold.index _ hindex).1⟩
  | primaryKey hkey => decide
  | @changedColumn column new hcolumn hmem =>
      have hname := (hold.column _ hcolumn).1
      have hclause : (TableChange.changeColumn column.name new.definition).clause =
          "CHANGE COLUMN ".toList ++ column.name ++ " ".toList ++ column.name ++ " ".toList ++
            new.definition := rfl
      simp only [hclause, isOneLine_append]
      exact ⟨⟨⟨⟨⟨by decide, hname⟩, by decide⟩, hname⟩, by decide⟩, (hnew.column _ hmem).2⟩
  | droppedColumn hcolumn => exact isOneLine_append.mpr ⟨by decide, (hold.column _ hcolumn).1⟩

end

end TableComparison

/-! ## Schemas -/

/-- The tables of a schema that was read are tables that were read. -/
theorem Schema.hasOneLineParts_of_parse {keepQuotes : Bool} {source text : Text} {schema : Schema}
    (h : parse keepQuotes source text = .ok schema) :
    ∀ table ∈ schema.tables, table.HasOneLineParts := by
  intro table htable
  have hsource : table ∈ ObjectCategory.tables.objects schema := htable
  rcases (ObjectCategory.mem_objects_steps h).mp hsource with
    ⟨hempty, -⟩ | ⟨_, definition, _, -, hcreated, -⟩
  · cases hempty
  · exact Table.hasOneLineParts_of_parse (Definition.createdTable?_eq_some.mp hcreated).2

namespace SchemaComparison

variable {c : SchemaComparison} {statement : Statement}

/-- A statement with a comment changes a table that both schemas have. -/
theorem exists_of_comment_ne_nil (h : statement ∈ c.statements)
    (hcomment : statement.comment ≠ []) :
    ∃ old ∈ c.old.tables, ∃ new ∈ c.new.tables, ∃ step : TableStep,
      statement = step.statement old.name ∧ ∃ comparison : TableComparison, comparison.old = old ∧
        comparison.new = new ∧ comparison.Comments step.change step.comment := by
  obtain ⟨step, hstep, rfl⟩ := List.mem_map.mp h
  cases step with
  | alterTable name step =>
      rcases alterTable_mem.mp hstep with
        ⟨table, htable, comparison, hcomparison, rfl, hmem⟩ | ⟨_, -, -, key, -, rfl⟩
      · obtain ⟨new, hnew, rfl⟩ := tableComparison?_eq_some.mp hcomparison
        refine ⟨table, (List.mem_filter.mp htable).1, new, List.mem_of_find?_eq_some hnew, step,
          rfl, _, rfl, rfl, (TableComparison.comment_cases hmem).resolve_left hcomment⟩
      · exact absurd rfl hcomment
  | dropTable _ | createTable _ | dropRoutine _ | createRoutine _ | replaceRoutine _ _
  | dropView _ | createView _ | alterView _ => exact absurd rfl hcomment

section

variable {keepQuotes keepQuotes' : Bool} {oldSource newSource oldText newText : Text}
  (hold : Schema.parse keepQuotes oldSource oldText = .ok c.old)
  (hnew : Schema.parse keepQuotes' newSource newText = .ok c.new) (h : statement ∈ c.statements)

include hold h

/-- No comment has a newline. -/
theorem isOneLine_comment : IsOneLine statement.comment := by
  by_cases hcomment : statement.comment = []
  · rw [hcomment]
    exact isOneLine_nil
  · obtain ⟨old, hmem, -, -, step, rfl, _, rfl, -, hcomments⟩ :=
      exists_of_comment_ne_nil h hcomment
    exact hcomments.isOneLine_comment (Schema.hasOneLineParts_of_parse hold _ hmem)

include hnew

/-- Nor has a statement with a comment, which ends with its semicolon. -/
theorem isOneLine_sql (hcomment : statement.comment ≠ []) :
    ∃ front, statement.sql = front ++ ";" ∧ IsOneLine front := by
  obtain ⟨_, hmem, _, hmem', step, rfl, comparison, rfl, rfl, hcomments⟩ :=
    exists_of_comment_ne_nil h hcomment
  have holdParts := Schema.hasOneLineParts_of_parse hold _ hmem
  have hclause := hcomments.isOneLine_clause holdParts
    (Schema.hasOneLineParts_of_parse hnew _ hmem')
  refine ⟨"ALTER TABLE ".toList ++ comparison.old.name ++ " ".toList ++ step.change.clause, rfl, ?_⟩
  simp only [isOneLine_append]
  exact ⟨⟨⟨by decide, holdParts.name⟩, by decide⟩, hclause⟩

end

end SchemaComparison

end SchemaMigration
