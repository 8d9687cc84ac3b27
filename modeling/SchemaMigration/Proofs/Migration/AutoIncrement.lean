import SchemaMigration.Proofs.Migration.KeyService

/-!
# Auto-increment columns stay indexed

The server insists that a column that numbers its rows is the first of some key. If it is so
in both tables, then it is so at every moment of the migration from one to the other, for all
columns that are not new: before the guards by the keys of the old table, from then on by keys
that stay and guards, and at the end by the keys of the new table.

## Main Definitions

* `TableState.mem_columns_run` - where a column with its definition comes from
* `TableComparison.Parting.isNew_of_mem_columns` - columns at the end are those of the new table
* `leadsKey_of_autoIncrement` - an auto-increment column leads a key at every moment
-/

namespace SchemaMigration

/-! ## Where definitions come from -/

namespace TableState

/-- A column behind a change was there before, or the change defines it. -/
theorem mem_columns_apply {s : TableState} {change : TableChange} {e : Text × Text}
    (h : e ∈ (s.apply change).columns) : e ∈ s.columns ∨ change = .changeColumn e.1 e.2 ∨
      ∃ key place, change = .addColumn e.1 e.2 key place := by
  cases change with
  | changeColumn name definition =>
      obtain ⟨column, hcolumn, rfl⟩ := List.mem_map.mp h
      by_cases hname : column.1 = name
      · simp [hname]
      · simp [hname, hcolumn]
  | addColumn name definition key place =>
      rcases mem_insert.mp h with rfl | h
      · exact Or.inr (Or.inr ⟨key, place, rfl⟩)
      · exact Or.inl h
  | dropColumn name => exact Or.inl (List.mem_filter.mp h).1
  | _ => exact Or.inl h

/-- A column behind a run was there before, or some change of the run defines it. -/
theorem mem_columns_run {s : TableState} {changes : List TableChange} {e : Text × Text}
    (h : e ∈ (s.run changes).columns) : e ∈ s.columns ∨ .changeColumn e.1 e.2 ∈ changes ∨
      ∃ key place, .addColumn e.1 e.2 key place ∈ changes := by
  induction changes generalizing s with
  | nil => exact Or.inl h
  | cons change rest ih =>
      rcases ih h with h | h | ⟨key, place, h⟩
      · rcases mem_columns_apply h with h | rfl | ⟨key, place, rfl⟩
        · exact Or.inl h
        · exact Or.inr (Or.inl (by simp))
        · exact Or.inr (Or.inr ⟨key, place, by simp⟩)
      · exact Or.inr (Or.inl (List.mem_cons_of_mem _ h))
      · exact Or.inr (Or.inr ⟨key, place, List.mem_cons_of_mem _ h⟩)

end TableState

namespace TableComparison

variable {c : TableComparison} {p : Phase} {done rest : List TableChange}

/-- A column with a name of the old table is not added. -/
theorem addColumn_notMem {name definition : Text} {key : InlineKey} {place : Placement}
    (h : name ∈ c.old.columnNames) : .addColumn name definition key place ∉ c.changes := by
  intro hadd
  obtain ⟨column, hcolumn, rfl, -⟩ := addColumn_mem hadd
  exact find?_eq_none_iff.mp (mem_addedColumns.mp hcolumn).2 h

/-- A column that is still there has not been dropped. -/
theorem Parting.dropColumn_notMem (h : c.Parting p done rest) {name : Text}
    (hname : name ∈ ((TableState.ofTable c.old).run done).columnNames) :
    .dropColumn name ∉ done := by
  intro hdrop
  refine TableState.run_establishes (P := fun t => name ∉ t.columnNames) _
    (h.pairwise_done c.pairwise_changes) hdrop ?_ ?_ hname
  · intro t
    simp [TableState.columnNames, TableState.apply]
  · intro later hlater hphase t ht hin
    obtain ⟨e, he, rfl⟩ := List.mem_map.mp hin
    -- Columns are changed and added before any is dropped.
    rcases TableState.mem_columns_apply he with hold | rfl | ⟨key, place, rfl⟩
    · exact ht (List.mem_map_of_mem hold)
    · exact absurd hphase (show ¬ Phase.dropColumn ≤ .changeColumn by decide)
    · exact absurd hphase (show ¬ Phase.dropColumn ≤ .addColumn by decide)

/-- Without tolerance a column whose definition differs gets the new one. -/
theorem changeColumn_mem_of_ne (htolerant : c.options.tolerant = false)
    {column new : Column} (hcolumn : column ∈ c.old.columns)
    (hnew : c.new.column? column.name = some new) (hne : column.definition ≠ new.definition) :
    .changeColumn column.name new.definition ∈ c.changes := by
  refine changeColumn_mem.mpr ⟨column, hcolumn, new, ?_, rfl, rfl⟩
  simpa [changedColumn?, hnew, Options.normalizeColumn, Options.normalize, htolerant] using hne

/-- An old column whose definition is changed has a new definition in the new table. -/
theorem new_column?_of_changeColumn {name definition : Text}
    (h : .changeColumn name definition ∈ c.changes) :
    ∃ new, c.new.column? name = some new ∧ new.definition = definition := by
  obtain ⟨column, -, new, hchanged, rfl, rfl⟩ := changeColumn_mem.mp h
  exact ⟨new, (Option.filter_eq_some_iff.mp hchanged).1, rfl⟩

/-- Once the columns are dropped, an old column that is still there is a column of the new table. -/
theorem Parting.exists_new_column? (h : c.Parting p done rest) (hp : .dropColumn < p)
    {name : Text} (hthere : name ∈ ((TableState.ofTable c.old).run done).columnNames)
    (hold : name ∈ c.old.columnNames) : ∃ new, c.new.column? name = some new := by
  by_contra hnone
  have hmissing : name ∉ c.new.columnNames :=
    find?_eq_none_iff.mp (Option.eq_none_iff_forall_ne_some.mpr (not_exists.mp hnone))
  obtain ⟨column, hcolumn, rfl⟩ := List.mem_map.mp hold
  refine h.dropColumn_notMem hthere (h.mem_done (dropColumn_mem.mpr ?_) hp)
  exact ⟨column, hcolumn, dropsColumn_iff.mpr ⟨hold, hmissing⟩, rfl⟩

/-- An old column is changed to no other definition than that of the new table. -/
theorem Parting.definition_eq_of_changeColumn (h : c.Parting p done rest) {name definition : Text}
    {new : Column} (hnew : c.new.column? name = some new)
    (hchange : .changeColumn name definition ∈ done) : definition = new.definition := by
  obtain ⟨other, hother, rfl⟩ := new_column?_of_changeColumn (h.mem_of_done hchange)
  rw [Option.some.inj (hother.symm.trans hnew)]

/-- Behind its change an old column has no other definition any more. -/
theorem Parting.definition_eq_of_mem_columns (h : c.Parting p done rest) {new : Column}
    {e : Text × Text} (he : e ∈ ((TableState.ofTable c.old).run done).columns)
    (hold : e.1 ∈ c.old.columnNames) (hnew : c.new.column? e.1 = some new)
    (hdone : .changeColumn e.1 new.definition ∈ done) : e.2 = new.definition := by
  refine TableState.run_establishes
    (P := fun t => ∀ entry ∈ t.columns, entry.1 = e.1 → entry.2 = new.definition)
    _ (h.pairwise_done c.pairwise_changes) hdone ?_ ?_ e he rfl
  · intro t entry hentry hname
    obtain ⟨first, -, rfl⟩ := List.mem_map.mp hentry
    by_cases hfirst : first.1 = e.1
    · simp [hfirst]
    · simp [hfirst] at hname
  · intro later hlater _ t ht entry hentry hname
    rcases TableState.mem_columns_apply hentry with hstays | rfl | ⟨key, place, rfl⟩
    · exact ht entry hstays hname
    · rw [hname] at hlater
      exact h.definition_eq_of_changeColumn hnew hlater
    · rw [hname] at hlater
      exact absurd (h.mem_of_done hlater) (addColumn_notMem hold)

/-- Once the columns are dropped, those that both tables have are as in the new table, unless
differences are tolerated. -/
theorem Parting.mem_new_of_mem_columns (h : c.Parting p done rest)
    (htolerant : c.options.tolerant = false) (hp : .dropColumn < p) {e : Text × Text}
    (he : e ∈ ((TableState.ofTable c.old).run done).columns) (hold : e.1 ∈ c.old.columnNames) :
    e ∈ (TableState.ofTable c.new).columns := by
  obtain ⟨new, hnew⟩ := h.exists_new_column? hp (List.mem_map_of_mem he) hold
  obtain ⟨hmem, hname⟩ := mem_of_find?_eq_some hnew
  have hdefinition : e.2 = new.definition := by
    rcases TableState.mem_columns_run he with hbefore | hchange | ⟨key, place, hadd⟩
    · obtain ⟨column, hcolumn, rfl⟩ := List.mem_map.mp hbefore
      by_contra hne
      refine hne (h.definition_eq_of_mem_columns he hold hnew ?_)
      exact h.mem_done (changeColumn_mem_of_ne htolerant hcolumn hnew hne)
        (lt_trans (show Phase.changeColumn < .dropColumn by decide) hp)
    · exact h.definition_eq_of_changeColumn hnew hchange
    · exact absurd (h.mem_of_done hadd) (addColumn_notMem hold)
  exact List.mem_map.mpr ⟨new, hmem, Prod.ext hname hdefinition.symm⟩

/-! ## Keys -/

/-- The name of a column that leads a key names itself. -/
theorem columnName?_of_leadsKey {s : TableState} {x : Text} (h : s.LeadsKey x) :
    columnName? x = some x := by
  obtain ⟨lead, hlead, hhead⟩ := h
  have hx : x ∈ lead := List.mem_of_mem_head? hhead
  rcases List.mem_append.mp hlead with hlead | hlead
  · obtain ⟨index, -, rfl⟩ := List.mem_map.mp hlead
    exact columnName?_of_mem_namedColumns (leadingColumns_subset _ hx)
  · obtain ⟨key, -, rfl⟩ := List.mem_map.mp hlead
    exact columnName?_of_mem_namedColumns (leadingColumns_subset _ hx)

/-- While guards are there, a column that numbers its rows before or after the migration is
served alone. -/
theorem Parting.serves_of_isAutoIncrementOnce (h : c.Parting p done rest) (hc : c.IsRegular)
    (hadded : .guardIndex < p) (hthere : p < .dropGuardIndex) {column : Column}
    (hcolumn : column ∈ c.old.columns) (hauto : c.isAutoIncrementOnce column = true)
    (hnamed : columnName? column.name = some column.name)
    (hstay : .dropColumn column.name ∉ done) :
    ((TableState.ofTable c.old).run done).Serves [column.name] := by
  have hstay' : ∀ d ∈ [column.name], .dropColumn d ∉ done := by simpa using hstay
  rcases exists_covers_of_isAutoIncrementOnce hcolumn hauto with ⟨lead, hlead, hstarts⟩ | hguard
  · exact h.serves_of_survivingKeys hc (by simp) hlead hstarts hstay'
  · exact h.serves_of_guard hc hadded hthere hguard (by simpa using hnamed) (by simp) (by simp)
      hstay'

/-- A column with an auto-increment definition is served alone in its table. -/
theorem serves_of_mentionsAutoIncrement {table : Table}
    (hkeys : (TableState.ofTable table).IndexesAutoIncrement) {column : Column}
    (hcolumn : column ∈ table.columns) (hauto : mentionsAutoIncrement column.definition) :
    (TableState.ofTable table).Serves [column.name] := by
  refine TableState.leadsKey_iff.mp (hkeys (column.name, column.definition) ?_ hauto)
  exact List.mem_map_of_mem hcolumn

/-- The name of such a column names itself. -/
theorem columnName?_of_mentionsAutoIncrement {table : Table}
    (hkeys : (TableState.ofTable table).IndexesAutoIncrement) {column : Column}
    (hcolumn : column ∈ table.columns) (hauto : mentionsAutoIncrement column.definition) :
    columnName? column.name = some column.name :=
  columnName?_of_leadsKey
    (TableState.leadsKey_iff.mpr (serves_of_mentionsAutoIncrement hkeys hcolumn hauto))

/-- So does that of every column that numbers its rows at some moment: its definition is one of the
two tables. -/
theorem Parting.columnName?_of_mem_columns (h : c.Parting p done rest)
    (hold : (TableState.ofTable c.old).IndexesAutoIncrement)
    (hnew : (TableState.ofTable c.new).IndexesAutoIncrement) {e : Text × Text}
    (he : e ∈ ((TableState.ofTable c.old).run done).columns) (hauto : mentionsAutoIncrement e.2) :
    columnName? e.1 = some e.1 := by
  rcases TableState.mem_columns_run he with hbefore | hchange | ⟨key, place, hadd⟩
  · exact columnName?_of_leadsKey (hold e hbefore hauto)
  · obtain ⟨column, hcolumn, hdefinition⟩ := new_column?_of_changeColumn (h.mem_of_done hchange)
    obtain ⟨hmem, hname⟩ := mem_of_find?_eq_some hcolumn
    rw [← hname]
    rw [← hdefinition] at hauto
    exact columnName?_of_mentionsAutoIncrement hnew hmem hauto
  · obtain ⟨column, hcolumn, hname, hdefinition, -⟩ := addColumn_mem (h.mem_of_done hadd)
    rw [← hname]
    rw [← hdefinition] at hauto
    exact columnName?_of_mentionsAutoIncrement hnew (mem_addedColumns.mp hcolumn).1 hauto

/-- An old column that is there and numbers its rows does so before or after the migration. -/
theorem Parting.exists_isAutoIncrementOnce (h : c.Parting p done rest) {e : Text × Text}
    (he : e ∈ ((TableState.ofTable c.old).run done).columns) (hname : e.1 ∈ c.old.columnNames)
    (hauto : mentionsAutoIncrement e.2) :
    ∃ column ∈ c.old.columns, column.name = e.1 ∧ c.isAutoIncrementOnce column = true := by
  simp only [isAutoIncrementOnce, Bool.or_eq_true]
  rcases TableState.mem_columns_run he with hbefore | hchange | ⟨key, place, hadd⟩
  · obtain ⟨column, hcolumn, rfl⟩ := List.mem_map.mp hbefore
    exact ⟨column, hcolumn, rfl, Or.inl hauto⟩
  · obtain ⟨column, hcolumn, hsame⟩ := List.mem_map.mp hname
    obtain ⟨new, hfound, hdefinition⟩ := new_column?_of_changeColumn (h.mem_of_done hchange)
    rw [← hdefinition] at hauto
    refine ⟨column, hcolumn, hsame, Or.inr ?_⟩
    rw [hsame, hfound]
    exact hauto
  · exact absurd (h.mem_of_done hadd) (addColumn_notMem hname)

/-- At every moment of a migration between tables whose auto-increment columns lead keys, every
column of the old table that is there and numbers its rows leads a key. -/
theorem Parting.leadsKey_of_mentionsAutoIncrement (h : c.Parting p done rest) (hc : c.IsRegular)
    (htolerant : c.options.tolerant = false)
    (hold : (TableState.ofTable c.old).IndexesAutoIncrement)
    (hnew : (TableState.ofTable c.new).IndexesAutoIncrement) {e : Text × Text}
    (he : e ∈ ((TableState.ofTable c.old).run done).columns) (hname : e.1 ∈ c.old.columnNames)
    (hauto : mentionsAutoIncrement e.2) :
    ((TableState.ofTable c.old).run done).LeadsKey e.1 := by
  rw [TableState.leadsKey_iff]
  rcases le_or_gt p .guardIndex with hp | hadded
  · -- No definition has changed yet.
    rcases TableState.mem_columns_run he with hbefore | hchange | ⟨key, place, hadd⟩
    · exact h.serves_of_old hp (TableState.leadsKey_iff.mp (hold e hbefore hauto))
    · exact absurd ((h.le_of_done _ hchange).trans hp)
        (show ¬ Phase.changeColumn ≤ .guardIndex by decide)
    · exact absurd (h.mem_of_done hadd) (addColumn_notMem hname)
  rcases lt_or_ge p .dropGuardIndex with hthere | hp
  · -- Guards are there, and no column is without its old key or a guard.
    obtain ⟨column, hcolumn, hsame, honce⟩ := h.exists_isAutoIncrementOnce he hname hauto
    have hnamed := h.columnName?_of_mem_columns hold hnew he hauto
    have hstay : .dropColumn e.1 ∉ done := h.dropColumn_notMem (List.mem_map_of_mem he)
    rw [← hsame] at hstay hnamed ⊢
    exact h.serves_of_isAutoIncrementOnce hc hadded hthere hcolumn honce hnamed hstay
  · -- All definitions are those of the new table.
    have hlast := h.mem_new_of_mem_columns htolerant (lt_of_lt_of_le (by decide) hp) he hname
    obtain ⟨new, hmem, rfl⟩ := List.mem_map.mp hlast
    exact h.serves_of_new hc (le_trans (by decide) hp)
      (serves_of_mentionsAutoIncrement hnew hmem hauto)

/-- Auto-increment columns stay indexed: between any two tables that were read and in which every
auto-increment column leads a key, the statements ask for changes, and behind any number of them
every column of the old table that is there and numbers its rows leads a key. -/
theorem leadsKey_of_run {oldText newText : Text} (hold : Table.parse oldText = .ok c.old)
    (hnew : Table.parse newText = .ok c.new)
    (holdKeys : (TableState.ofTable c.old).IndexesAutoIncrement)
    (hnewKeys : (TableState.ofTable c.new).IndexesAutoIncrement)
    (htolerant : c.options.tolerant = false) (holdNames : c.old.HasNoGuardName)
    (hnewNames : c.new.HasNoGuardName) (k : Nat) :
    List.Forall₂ (Statement.Alters c.name) (c.statements.take k) (c.changes.take k) ∧
    ∀ e ∈ ((TableState.ofTable c.old).run (c.changes.take k)).columns,
      e.1 ∈ c.old.columnNames → mentionsAutoIncrement e.2 →
        ((TableState.ofTable c.old).run (c.changes.take k)).LeadsKey e.1 := by
  refine ⟨List.forall₂_take k c.alters_statements, ?_⟩
  intro e he hname hauto
  have hc : c.IsRegular := {
    old_wellFormed := Table.wellFormed_of_parse hold
    new_wellFormed := Table.wellFormed_of_parse hnew
    old_noGuardName := holdNames
    new_noGuardName := hnewNames }
  obtain ⟨p, (h : c.Parting p (c.changes.take k) (c.changes.drop k))⟩ :=
    Phase.exists_parting c.pairwise_changes k
  exact h.leadsKey_of_mentionsAutoIncrement hc htolerant holdKeys hnewKeys he hname hauto

/-- A table with an auto-increment column whose key is given by a line. -/
def keyedText (line : Text) : Text :=
  "CREATE TABLE t (\n  id int AUTO_INCREMENT,\n  b int,\n  " ++ line ++ "\n);"

/-- The primary key of an auto-increment column gives way to an index. -/
def rekeyed : TableComparison where
  old := {
    name := "t"
    columns := [⟨"id", "int AUTO_INCREMENT", 0⟩, ⟨"b", "int", 1⟩]
    indexes := []
    primaryKey := some ⟨["id"], []⟩
    foreignKeys := []
    checks := []
    options := []
    definition := keyedText "PRIMARY KEY (id)" }
  new := {
    name := "t"
    columns := [⟨"id", "int AUTO_INCREMENT", 0⟩, ⟨"b", "int", 1⟩]
    indexes := [⟨"by_id", .plain, ["id"], []⟩]
    primaryKey := none
    foreignKeys := []
    checks := []
    options := []
    definition := keyedText "KEY by_id (id)" }
  options := .default
  incoming := []

/-- There the guard is the only key of the column once the primary key is dropped. -/
theorem leadsKey_of_run_rekeyed :
    ((TableState.ofTable rekeyed.old).run (rekeyed.changes.take 2)).primaryKey = none ∧
      ((TableState.ofTable rekeyed.old).run (rekeyed.changes.take 2)).LeadsKey "id" := by
  refine ⟨by decide +kernel, ?_⟩
  exact (leadsKey_of_run
    (show Table.parse (keyedText "PRIMARY KEY (id)") = .ok rekeyed.old by decide +kernel)
    (show Table.parse (keyedText "KEY by_id (id)") = .ok rekeyed.new by decide +kernel)
    (by decide +kernel) (by decide +kernel) rfl
    (Table.hasNoGuardName_of_forall (by decide +kernel))
    (Table.hasNoGuardName_of_forall (by decide +kernel)) 2).2
    ("id", "int AUTO_INCREMENT") (by decide +kernel) (by decide +kernel) (by decide +kernel)

end TableComparison

end SchemaMigration
