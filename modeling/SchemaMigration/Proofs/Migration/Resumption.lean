import SchemaMigration.Proofs.Migration.AutoIncrement
import SchemaMigration.Proofs.Migration.IndexReplay
import SchemaMigration.Proofs.Migration.ReferencedTable

/-!
# Interrupted migrations

A migration that breaks off leaves a schema behind the steps that were made, and the way on is a
comparison of that schema with the one aimed at. It adds and drops indexes under the right names
and ends with those of the second schema just if the names of its guards are free. They need not
be, since guards of the first migration may be left over and are called like those of the second.

## Main Definitions

* `SchemaState.ReplaysIndexes` - what a step adds has a free name, and what it drops is there
* `SchemaComparison.IndexesConverge` - so it is at every step, and the indexes become the new ones
* `SchemaComparison.HasFreshGuards` - the names of guards are free in all tables
* `SchemaComparison.Resumes` - a migration from where another one was interrupted
* `IsGuardable.indexesConverge_iff` - the indexes converge just if the names of guards are free
* `indexesConverge_iff_of_resumes` - so it is with interrupted migrations

## Design Notes

A column that numbers its rows need not lead a key where a migration is interrupted, but it got its
definition from one of the two schemas, and there it does. So its name is one that a key part may
give, which is all that its guard asks for.
-/

namespace SchemaMigration

namespace SchemaState

/-- A step on a table finds the table there, adds indexes under free names only, and drops only
such as are there. -/
def AcceptsIndexes (s : SchemaState) : Step → Prop
  | .alterTable table step =>
    table ∈ s.tableNames ∧ ∀ t ∈ s.tables, t.name = table → t.AcceptsIndexes step.change
  | _ => True

/-- So it is at every step of a list, in the state behind those in front of it. -/
def ReplaysIndexes (s : SchemaState) (steps : List Step) : Prop :=
  ∀ front step back, steps = front ++ step :: back → (s.run front).AcceptsIndexes step

variable {s : SchemaState} {steps : List Step} {t : TableState}

/-- If steps pass, so do the changes of a table that is not dropped. -/
theorem ReplaysIndexes.alterations (h : s.ReplaysIndexes steps) (ht : t ∈ s.tables)
    (hdrop : .dropTable t.name ∉ steps) : t.ReplaysIndexes (alterations t.name steps) := by
  intro front change back hsplit
  obtain ⟨before, behind, rfl, rfl, hrest⟩ := List.filterMap_eq_append_iff.mp hsplit
  obtain ⟨others, step, later, rfl, hnone, hchange, -⟩ := List.filterMap_eq_cons_iff.mp hrest
  obtain ⟨found, rfl, rfl⟩ := Step.alterationOf?_eq_some.mp hchange
  -- The steps between the one before and this one are on other tables.
  have hothers : SchemaMigration.alterations t.name (before ++ others)
      = before.filterMap (·.alterationOf? t.name) := by
    rw [SchemaMigration.alterations, List.filterMap_append,
      List.filterMap_eq_nil_iff.mpr hnone, List.append_nil]
  have hsteps : before ++ (others ++ .alterTable t.name found :: later)
      = before ++ others ++ .alterTable t.name found :: later := by simp
  have hthere := mem_tables_run_of_mem ht
    fun hin => hdrop (hsteps ▸ List.mem_append_left _ hin)
  rw [hothers] at hthere
  exact (h _ _ _ hsteps).2 _ hthere (TableState.run_name _ _)

end SchemaState

namespace SchemaComparison

/-- A migration adds indexes under free names, drops such as are there, and ends with the indexes
of the second schema in all its tables. -/
def IndexesConverge (c : SchemaComparison) : Prop :=
  (SchemaState.ofSchema c.old).ReplaysIndexes c.steps ∧
    ∀ table ∈ c.new.tables, ∃ t ∈ ((SchemaState.ofSchema c.old).run c.steps).tables,
      t.name = table.name ∧ t.indexes.Perm table.indexes

/-- The names of guards are free in every table that both schemas have. -/
def HasFreshGuards (c : SchemaComparison) : Prop :=
  ∀ table ∈ c.old.tables, ∀ comparison ∈ c.tableComparison? table, comparison.HasFreshGuards

instance (c : SchemaComparison) : Decidable c.HasFreshGuards :=
  inferInstanceAs (Decidable (∀ table ∈ c.old.tables, ∀ comparison ∈ c.tableComparison? table,
    comparison.HasFreshGuards))

/-- A migration to the same schema that starts where another one stopped behind some steps. -/
structure Resumes (c first : SchemaComparison) (k : Nat) : Prop where
  start : SchemaState.ofSchema c.old = (SchemaState.ofSchema first.old).run (first.steps.take k)
  new_eq : c.new = first.new
  options_eq : c.options = first.options

/-- What guards rely on: the names of auto-increment columns, and the keys of the second schema. -/
structure IsGuardable (c : SchemaComparison) : Prop where
  old_wellFormed : c.old.WellFormed
  new_wellFormed : c.new.WellFormed
  old_named : ∀ table ∈ c.old.tables, ∀ column ∈ table.columns, column.isAutoIncrement = true →
    columnName? column.name = some column.name
  new_indexed : ∀ table ∈ c.new.tables, (TableState.ofTable table).IndexesAutoIncrement
  new_served : c.new.ServesForeignKeys

variable {c : SchemaComparison}

/-! ## Guards of interrupted migrations -/

/-- The columns of foreign keys that stay are columns of the second schema. -/
theorem IsGuardable.servedColumns_subset (hc : c.IsGuardable) {table : Table}
    {comparison : TableComparison} (hcomparison : c.tableComparison? table = some comparison)
    {columns : List Text} (h : columns ∈ comparison.servedColumns) :
    columns ⊆ comparison.new.columnNames := by
  obtain ⟨new, hfound, rfl⟩ := tableComparison?_eq_some.mp hcomparison
  obtain ⟨hmem, hname⟩ := mem_of_find?_eq_some hfound
  have hformed := hc.new_wellFormed.tables_wellFormed new hmem
  rcases List.mem_append.mp h with h | h
  · obtain ⟨key, hkey, rfl⟩ := List.mem_map.mp h
    have hkeeps := (List.mem_filter.mp hkey).2
    rw [TableComparison.keepsForeignKey, beq_iff_eq] at hkeeps
    exact hformed.foreignKey_columns key (mem_of_find?_eq_some hkeeps).1
  · obtain ⟨-, child, -, newChild, hchild, key, -, hrefers, hkept, rfl⟩ := mem_incoming.mp h
    have hserves := hc.new_served.target hc.new_wellFormed (mem_of_find?_eq_some hchild).1
      (mem_of_find?_eq_some hkept).1 hmem (hname.trans hrefers.symm)
    exact TableComparison.mem_columnNames_of_serves hformed hserves

/-- So the guards of every table are over columns that key parts may name. -/
theorem IsGuardable.table (hc : c.IsGuardable) {table : Table} (htable : table ∈ c.old.tables)
    {comparison : TableComparison} (hcomparison : c.tableComparison? table = some comparison) :
    comparison.IsGuardable where
  old_wellFormed := by
    obtain ⟨new, -, rfl⟩ := tableComparison?_eq_some.mp hcomparison
    exact hc.old_wellFormed.tables_wellFormed table htable
  new_wellFormed := by
    obtain ⟨new, hfound, rfl⟩ := tableComparison?_eq_some.mp hcomparison
    exact hc.new_wellFormed.tables_wellFormed new (mem_of_find?_eq_some hfound).1
  unguarded_named := by
    obtain ⟨new, hfound, rfl⟩ := tableComparison?_eq_some.mp hcomparison
    intro x hx
    obtain ⟨column, hcolumn, rfl⟩ := List.mem_map.mp hx
    obtain ⟨hmem, hunguarded⟩ := List.mem_filter.mp hcolumn
    rw [Bool.and_eq_true, TableComparison.isAutoIncrementOnce, Bool.or_eq_true,
      Option.any_eq_true] at hunguarded
    rcases hunguarded.1 with hauto | ⟨other, hother, hauto⟩
    · exact hc.old_named table htable column hmem hauto
    · obtain ⟨hmem, hname⟩ := mem_of_find?_eq_some hother
      rw [← hname]
      exact TableComparison.columnName?_of_mentionsAutoIncrement
        (hc.new_indexed new (mem_of_find?_eq_some hfound).1) hmem hauto
  served_named := by
    obtain ⟨new, -, rfl⟩ := tableComparison?_eq_some.mp hcomparison
    refine TableComparison.columnName?_of_mem_servedColumns ?_
    intro columns hcolumns x hx
    obtain ⟨-, _, -, _, -, key, -, -, -, rfl⟩ := mem_incoming.mp hcolumns
    exact columnName?_of_mem_namedColumns hx
  served_new := fun _ h => hc.servedColumns_subset hcomparison h

/-- Every column that numbers its rows at some moment has a name that names itself, if those of the
two schemas lead keys. -/
theorem Parting.columnName?_of_mem_columns {p : Phase} {done rest : List Step}
    (h : c.Parting p done rest) (hold : c.old.WellFormed) (hnew : c.new.WellFormed)
    (hoptions : c.options = .default)
    (holdKeys : ∀ table ∈ c.old.tables, (TableState.ofTable table).IndexesAutoIncrement)
    (hnewKeys : ∀ table ∈ c.new.tables, (TableState.ofTable table).IndexesAutoIncrement)
    {t : TableState} (ht : t ∈ ((SchemaState.ofSchema c.old).run done).tables) {e : Text × Text}
    (he : e ∈ t.columns) (hauto : mentionsAutoIncrement e.2) : columnName? e.1 = some e.1 := by
  cases h.tableFate hold hnew hoptions ht with
  | compared htable hcomparison hparting ht =>
      subst ht
      obtain ⟨new, hfound, rfl⟩ := tableComparison?_eq_some.mp hcomparison
      exact hparting.columnName?_of_mem_columns (holdKeys _ htable)
        (hnewKeys new (mem_of_find?_eq_some hfound).1) he hauto
  | missing htable hp ht =>
      subst ht
      exact TableComparison.columnName?_of_leadsKey (holdKeys _ htable e he hauto)
  | created htable hp hphase hdone ht =>
      subst ht
      have hkeys := hnewKeys _ (new_of_mem_createdTables htable).1
      -- Only foreign keys were added to the table since.
      rcases TableState.mem_columns_run he with hbefore | hchange | ⟨key, place, hadd⟩
      · exact TableComparison.columnName?_of_leadsKey (hkeys e hbefore hauto)
      · obtain ⟨_, -, heq⟩ := hdone _ hchange
        cases heq
      · obtain ⟨_, -, heq⟩ := hdone _ hadd
        cases heq

/-! ## The steps on tables -/

/-- A foreign key neither adds nor drops an index. -/
theorem acceptsIndexes_addForeignKey (t : TableState) (key : ForeignKey) :
    t.AcceptsIndexes (.addForeignKey key) := by
  simp [TableState.AcceptsIndexes, TableChange.index?, TableChange.droppedIndex?]

/-- A table that both schemas have goes through its own comparison, and stays. -/
theorem alterations_of_tableComparison? (hold : c.old.WellFormed) (hoptions : c.options = .default)
    {table : Table} (htable : table ∈ c.old.tables) {comparison : TableComparison}
    (hcomparison : c.tableComparison? table = some comparison) :
    alterations table.name c.steps = comparison.changes ∧ .dropTable table.name ∉ c.steps := by
  refine ⟨alterations_eq_changes hold (mem_selectedTables hoptions htable) hcomparison, ?_⟩
  obtain ⟨new, hfound, -⟩ := tableComparison?_eq_some.mp hcomparison
  obtain ⟨hmem, hname⟩ := mem_of_find?_eq_some hfound
  exact dropTable_notMem_of_new (List.mem_map.mpr ⟨new, hmem, hname⟩)

/-- If steps pass, the names of guards are free. -/
theorem IsGuardable.hasFreshGuards (hc : c.IsGuardable) (hoptions : c.options = .default)
    (h : (SchemaState.ofSchema c.old).ReplaysIndexes c.steps) : c.HasFreshGuards := by
  intro table htable comparison hcomparison
  obtain ⟨hchanges, hdrop⟩ :=
    alterations_of_tableComparison? hc.old_wellFormed hoptions htable hcomparison
  have hreplays := h.alterations (List.mem_map_of_mem htable) hdrop
  rw [TableState.ofTable_name, hchanges] at hreplays
  obtain ⟨new, hfound, rfl⟩ := tableComparison?_eq_some.mp hcomparison
  exact (hc.table htable hcomparison).replaysIndexes_iff.mp hreplays

/-- A table is there when it is altered. -/
theorem mem_tableNames_of_alterTable (hnew : c.new.WellFormed) (hoptions : c.options = .default)
    {front back : List Step} {table : Text} {step : TableStep}
    (hsplit : c.steps = front ++ .alterTable table step :: back) :
    table ∈ ((SchemaState.ofSchema c.old).run front).tableNames := by
  have h := Phase.parting_of_eq_append c.pairwise_steps hsplit
  have hmem : .alterTable table step ∈ c.steps := by simp [hsplit]
  rcases alterTable_mem.mp hmem with ⟨other, hother, comparison, hcomparison, rfl, -⟩ |
    ⟨created, hcreated, rfl, key, -, rfl⟩
  · obtain ⟨new, hfound, -⟩ := tableComparison?_eq_some.mp hcomparison
    obtain ⟨hnewTable, hname⟩ := mem_of_find?_eq_some hfound
    exact Parting.mem_tableNames_of_new h hnew hoptions (List.mem_map.mpr ⟨new, hnewTable, hname⟩)
      (Or.inl (List.mem_map_of_mem (List.mem_filter.mp hother).1))
  · exact Parting.mem_tableNames_of_new h hnew hoptions
      (List.mem_map_of_mem (new_of_mem_createdTables hcreated).1)
      (Or.inr (show Phase.createTable < .addForeignKey by decide))

/-- If the names of guards are free, the changes of every old table pass. -/
theorem IsGuardable.replaysIndexes_alterations (hc : c.IsGuardable)
    (hoptions : c.options = .default) (hfresh : c.HasFreshGuards) {table : Table}
    (htable : table ∈ c.old.tables) :
    (TableState.ofTable table).ReplaysIndexes (alterations table.name c.steps) := by
  cases hfound : c.new.table? table.name with
  | none =>
      rw [alterations_eq_nil hc.old_wellFormed htable hfound]
      exact TableState.replaysIndexes_nil
  | some new =>
      have hcomparison := tableComparison?_eq_some.mpr ⟨new, hfound, rfl⟩
      rw [(alterations_of_tableComparison? hc.old_wellFormed hoptions htable hcomparison).1]
      exact (hc.table htable hcomparison).replaysIndexes_iff.mpr (hfresh table htable _ hcomparison)

/-- So steps pass. -/
theorem IsGuardable.replaysIndexes (hc : c.IsGuardable) (hoptions : c.options = .default)
    (hfresh : c.HasFreshGuards) : (SchemaState.ofSchema c.old).ReplaysIndexes c.steps := by
  intro front step back hsplit
  cases step with
  | alterTable name step =>
      refine ⟨mem_tableNames_of_alterTable hc.new_wellFormed hoptions hsplit, ?_⟩
      rintro t ht rfl
      rcases SchemaState.mem_tables_run ht with ⟨t₀, ht₀, rfl, -⟩ |
        ⟨before, table, behind, rfl, rfl, -⟩
      · obtain ⟨table, htable, rfl⟩ := List.mem_map.mp ht₀
        have hreplays := hc.replaysIndexes_alterations hoptions hfresh htable
        rw [hsplit] at hreplays
        refine hreplays (alterations table.name front) step.change (alterations table.name back) ?_
        simp [alterations, Step.alterationOf?]
      · -- A table that was created on the way only gets its foreign keys.
        rw [TableState.run_name] at hsplit
        have hcreated : table ∈ c.createdTables := createTable_mem (by simp [hsplit])
        have hchange : step.change ∈ alterations table.name c.steps :=
          mem_alterations.mpr ⟨step, by simp [hsplit, TableState.created], rfl⟩
        obtain ⟨key, -, heq⟩ := mem_alterations_created hc.new_wellFormed hcreated hchange
        rw [heq]
        exact acceptsIndexes_addForeignKey _ _
  | _ => trivial

/-- A created table keeps its indexes. -/
theorem run_indexes_created (hnew : c.new.WellFormed) {table : Table}
    (hcreated : table ∈ c.createdTables) {steps : List Step} (hsteps : steps ⊆ c.steps) :
    ((TableState.created table).run (alterations table.name steps)).indexes = table.indexes := by
  refine TableState.run_induction (P := fun t => t.indexes = table.indexes) rfl ?_
  intro change hchange t ht
  obtain ⟨key, -, rfl⟩ :=
    mem_alterations_created hnew hcreated (alterations_subset hsteps _ hchange)
  exact ht

/-- The tables of the second schema end with their indexes. -/
theorem IsGuardable.exists_indexes_perm (hc : c.IsGuardable) (hoptions : c.options = .default)
    (hfresh : c.HasFreshGuards) {table : Table} (htable : table ∈ c.new.tables) :
    ∃ t ∈ ((SchemaState.ofSchema c.old).run c.steps).tables,
      t.name = table.name ∧ t.indexes.Perm table.indexes := by
  cases hold : c.old.table? table.name with
  | some old =>
      obtain ⟨hmem, hname⟩ := mem_of_find?_eq_some hold
      have hfound : c.new.table? old.name = some table := by
        rw [hname]
        exact hc.new_wellFormed.table?_eq_some htable
      have hcomparison := tableComparison?_eq_some.mpr ⟨table, hfound, rfl⟩
      obtain ⟨hchanges, hdrop⟩ :=
        alterations_of_tableComparison? hc.old_wellFormed hoptions hmem hcomparison
      have hroutable : TableComparison.IsRoutable _ :=
        { hc.table hmem hcomparison, hfresh old hmem _ hcomparison with }
      have hthere := SchemaState.mem_tables_run_of_mem
        (s := .ofSchema c.old) (List.mem_map_of_mem hmem) hdrop
      rw [TableState.ofTable_name, hchanges] at hthere
      exact ⟨_, hthere, by rw [TableState.run_name, TableState.ofTable_name, hname],
        hroutable.run_indexes_perm⟩
  | none =>
      have hcreated := mem_createdTables (hoptions ▸ Options.comparesAll_default)
        hc.new_wellFormed htable hold
      obtain ⟨back, hback, hthere⟩ := SchemaState.mem_tables_run_created
        (s := .ofSchema c.old) (createTable_mem_of_mem hcreated)
        (dropTable_notMem_of_new (List.mem_map_of_mem htable))
      refine ⟨_, hthere, TableState.run_name _ _, ?_⟩
      rw [run_indexes_created hc.new_wellFormed hcreated hback]

/-- The indexes converge just if the names of guards are free. -/
theorem IsGuardable.indexesConverge_iff (hc : c.IsGuardable) (hoptions : c.options = .default) :
    c.IndexesConverge ↔ c.HasFreshGuards := by
  constructor
  · exact fun h => hc.hasFreshGuards hoptions h.1
  · intro hfresh
    exact ⟨hc.replaysIndexes hoptions hfresh,
      fun _ htable => hc.exists_indexes_perm hoptions hfresh htable⟩

end SchemaComparison

/-- Interrupted migrations: between any two schemas that were read, in which auto-increment columns
lead keys and foreign keys are served, let a migration stop behind any number of statements, and the
schema that it leaves be read again. The migration from there adds indexes under free names, drops
such as are there and ends with the indexes of the second schema just if no guard of it is called
like an index that is there. -/
theorem indexesConverge_iff_of_resumes {c resumed : SchemaComparison}
    {keepQuotes keepQuotes' keepQuotes'' : Bool} {source source' source'' : Text}
    {oldText newText leftText : Text}
    (hold : Schema.parse keepQuotes source oldText = .ok c.old)
    (hnew : Schema.parse keepQuotes' source' newText = .ok c.new)
    (hleft : Schema.parse keepQuotes'' source'' leftText = .ok resumed.old)
    (hoptions : c.options = .default)
    (holdKeys : ∀ table ∈ c.old.tables, (TableState.ofTable table).IndexesAutoIncrement)
    (hnewKeys : ∀ table ∈ c.new.tables, (TableState.ofTable table).IndexesAutoIncrement)
    (hnewServed : c.new.ServesForeignKeys) {k : Nat} (hresumes : resumed.Resumes c k) :
    List.Forall₂ Statement.Executes (c.statements.take k) (c.steps.take k) ∧
    List.Forall₂ Statement.Executes resumed.statements resumed.steps ∧
    (resumed.IndexesConverge ↔ resumed.HasFreshGuards) := by
  have holdFormed : c.old.WellFormed := Schema.wellFormed_of_parse hold
  have hnewFormed : c.new.WellFormed := Schema.wellFormed_of_parse hnew
  obtain ⟨p, (h : c.Parting p (c.steps.take k) (c.steps.drop k))⟩ :=
    Phase.exists_parting c.pairwise_steps k
  have hc : resumed.IsGuardable := {
    old_wellFormed := Schema.wellFormed_of_parse hleft
    new_wellFormed := hresumes.new_eq ▸ hnewFormed
    old_named := by
      intro table htable column hcolumn hauto
      have hthere : TableState.ofTable table ∈
          ((SchemaState.ofSchema c.old).run (c.steps.take k)).tables := by
        rw [← hresumes.start]
        exact List.mem_map_of_mem htable
      exact h.columnName?_of_mem_columns holdFormed hnewFormed hoptions holdKeys
        hnewKeys hthere (List.mem_map_of_mem hcolumn) hauto
    new_indexed := hresumes.new_eq ▸ hnewKeys
    new_served := hresumes.new_eq ▸ hnewServed }
  refine ⟨List.forall₂_take k c.executes_statements, resumed.executes_statements, ?_⟩
  exact hc.indexesConverge_iff (hresumes.options_eq.trans hoptions)

/-- The table that a foreign key refers to, with the guard of the columns there. -/
def guardedText : Text :=
  "CREATE TABLE p (\n  id int,\n  KEY by_id (id),\n  KEY " ++
  TableComparison.keyGuardName ["id"] ++ " (id)\n);"

/-- What is left to do when the index is to become a unique one and the guard is there already. -/
def interrupted : SchemaComparison where
  old := { family "KEY" .plain with
    tables :=
      { name := "p"
        columns := [⟨"id", "int", 0⟩]
        indexes := [⟨"by_id", .plain, ["id"], []⟩,
          ⟨TableComparison.keyGuardName ["id"], .plain, ["id"], []⟩]
        primaryKey := none
        foreignKeys := []
        checks := []
        options := []
        definition := guardedText } :: (family "KEY" .plain).tables.drop 1 }
  new := rebuilt.new
  options := .default

/-- From the start the migration passes. Behind its first step a second guard of the same name is
added, and dropped once more when the first one has gone with the old indexes. -/
theorem indexesConverge_iff_of_resumes_interrupted :
    rebuilt.IndexesConverge ∧ interrupted.Resumes rebuilt 1 ∧ ¬ interrupted.IndexesConverge ∧
      alterations "p" interrupted.steps =
        [.addGuard (some (TableComparison.keyGuardName ["id"])) ["id"], .dropIndex "by_id",
          .dropIndex (TableComparison.keyGuardName ["id"]),
          .addIndex ⟨"by_id", .unique, ["id"], []⟩,
          .dropGuard (TableComparison.keyGuardName ["id"])] := by
  have hold : Schema.parse false [] (parentText "KEY" ++ "\n" ++ childText) = .ok rebuilt.old := by
    decide +kernel
  have hnew : Schema.parse false [] (parentText "UNIQUE KEY" ++ "\n" ++ childText)
      = .ok rebuilt.new := by
    decide +kernel
  have hresumes : interrupted.Resumes rebuilt 1 := ⟨by decide +kernel, rfl, rfl⟩
  refine ⟨?_, hresumes, ?_, by decide +kernel⟩
  · exact (indexesConverge_iff_of_resumes hold hnew hold rfl (by decide +kernel)
      (by decide +kernel) (by decide +kernel) (k := 0) ⟨rfl, rfl, rfl⟩).2.2.mpr (by decide +kernel)
  · rw [(indexesConverge_iff_of_resumes hold hnew
      (show Schema.parse false [] (guardedText ++ "\n" ++ childText) = .ok interrupted.old by
        decide +kernel)
      rfl (by decide +kernel) (by decide +kernel) (by decide +kernel) hresumes).2.2]
    decide +kernel

end SchemaMigration
