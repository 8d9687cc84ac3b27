import SchemaMigration.Proofs.Migration.SchemaChanges

/-!
# Foreign keys stay served

The server insists that the columns of a foreign key, and the columns that it refers to, are the
first of some key of their table. If it is so in both schemas, it is so at every moment of the
migration from one to the other.

## Main Definitions

* `Schema.ServesForeignKeys` - every foreign key is served at both ends
* `SchemaComparison.Parting` - a moment of the migration of a schema
* `TableFate` - what the migration has made of a table that is there at a moment
* `Demand` - why columns of a table are to be served at a moment
* `Parting.serves_of_demand` - every table that is there serves what is demanded of it
* `serves_of_run` - every foreign key is served at both ends at every moment

## Design Notes

A foreign key that is there at a moment stays for good, or is still there because its table or
itself is about to go, or is new. In the first case the comparison of each of the two tables
knows about its columns and sees to guards. In the second case no key has been touched yet, and in
the third no key is going to be touched any more.
-/

namespace SchemaMigration

/-- Every foreign key refers to a table of the schema, and its columns at both ends are served. -/
def Schema.ServesForeignKeys (schema : Schema) : Prop :=
  ∀ table ∈ schema.tables, ∀ key ∈ table.foreignKeys,
    (TableState.ofTable table).Serves (namedColumns key.parts) ∧
    ∃ target ∈ schema.tables, target.name = key.refTable ∧
      (TableState.ofTable target).Serves (namedColumns key.refParts)

instance (schema : Schema) : Decidable schema.ServesForeignKeys :=
  inferInstanceAs (Decidable (∀ table ∈ schema.tables, ∀ key ∈ table.foreignKeys,
    (TableState.ofTable table).Serves (namedColumns key.parts) ∧
    ∃ target ∈ schema.tables, target.name = key.refTable ∧
      (TableState.ofTable target).Serves (namedColumns key.refParts)))

/-- In a schema with distinct names a foreign key is served by the table that it refers to. -/
theorem Schema.ServesForeignKeys.target {schema : Schema} (h : schema.ServesForeignKeys)
    (hschema : schema.WellFormed) {table target : Table} (htable : table ∈ schema.tables)
    {key : ForeignKey} (hkey : key ∈ table.foreignKeys) (htarget : target ∈ schema.tables)
    (hname : target.name = key.refTable) :
    (TableState.ofTable target).Serves (namedColumns key.refParts) := by
  obtain ⟨-, found, hfound, hfoundName, hserves⟩ := h table htable key hkey
  rwa [eq_of_key_eq hschema.tableNames_nodup hfound htarget (hfoundName.trans hname.symm)]
    at hserves

namespace TableState

/-- A foreign key behind a change was there before and is not dropped by it, or it is added. -/
theorem mem_foreignKeys_apply {s : TableState} {change : TableChange} {key : ForeignKey}
    (h : key ∈ (s.apply change).foreignKeys) :
    (key ∈ s.foreignKeys ∧ change ≠ .dropForeignKey key.name) ∨ change = .addForeignKey key := by
  cases change with
  | dropForeignKey name =>
      obtain ⟨hmem, hname⟩ := List.mem_filter.mp h
      refine Or.inl ⟨hmem, ?_⟩
      intro heq
      simp [TableChange.dropForeignKey.inj heq] at hname
  | addForeignKey added =>
      rcases List.mem_append.mp h with h | h
      · exact Or.inl ⟨h, by simp⟩
      · exact Or.inr (by rw [List.mem_singleton.mp h])
  | _ => exact Or.inl ⟨h, by simp⟩

/-- A foreign key behind a run was there before and is not dropped, or it is added. -/
theorem mem_foreignKeys_run {s : TableState} {changes : List TableChange} {key : ForeignKey}
    (h : key ∈ (s.run changes).foreignKeys) :
    (key ∈ s.foreignKeys ∧ .dropForeignKey key.name ∉ changes) ∨ .addForeignKey key ∈ changes := by
  induction changes generalizing s with
  | nil => exact Or.inl ⟨h, by simp⟩
  | cons change rest ih =>
      rcases ih h with ⟨hbefore, hrest⟩ | hadd
      · rcases mem_foreignKeys_apply hbefore with ⟨hmem, hne⟩ | rfl
        · refine Or.inl ⟨hmem, ?_⟩
          simpa [hrest] using Ne.symm hne
        · exact Or.inr (by simp)
      · exact Or.inr (List.mem_cons_of_mem _ hadd)

/-- A table serves the same columns if only foreign keys are added to it. -/
theorem serves_run_of_addForeignKey {s : TableState} {changes : List TableChange}
    (h : ∀ change ∈ changes, ∃ key, change = .addForeignKey key) {columns : List Text} :
    (s.run changes).Serves columns ↔ s.Serves columns := by
  have hkeys : (s.run changes).keyLeads = s.keyLeads := by
    refine run_induction (P := fun t => t.keyLeads = s.keyLeads) rfl ?_
    intro change hchange t ht
    obtain ⟨key, rfl⟩ := h change hchange
    exact ht
  rw [Serves, Serves, hkeys]

end TableState

namespace SchemaComparison

variable {c : SchemaComparison} {p : Phase} {done rest : List Step}

/-- A moment of the migration of a schema. -/
abbrev Parting (c : SchemaComparison) (p : Phase) (done rest : List Step) : Prop :=
  Phase.Parting Step.phase c.steps p done rest

/-- What the comparison of two schemas relies on. -/
structure IsRegular (c : SchemaComparison) : Prop where
  old_wellFormed : c.old.WellFormed
  new_wellFormed : c.new.WellFormed
  old_noGuardName : ∀ table ∈ c.old.tables, table.HasNoGuardName
  new_noGuardName : ∀ table ∈ c.new.tables, table.HasNoGuardName

/-- The comparison of a table relies on no more. -/
theorem IsRegular.table (hc : c.IsRegular) {table : Table} (htable : table ∈ c.old.tables)
    {comparison : TableComparison} (hcomparison : c.tableComparison? table = some comparison) :
    comparison.IsRegular := by
  obtain ⟨new, hnew, rfl⟩ := Option.map_eq_some_iff.mp hcomparison
  obtain ⟨hmem, -⟩ := mem_of_find?_eq_some hnew
  exact {
    old_wellFormed := hc.old_wellFormed.tables_wellFormed table htable
    new_wellFormed := hc.new_wellFormed.tables_wellFormed new hmem
    old_noGuardName := hc.old_noGuardName table htable
    new_noGuardName := hc.new_noGuardName new hmem }

/-! ## Tables at a moment -/

/-- What the migration has made of a table that is there at a moment. -/
inductive TableFate (c : SchemaComparison) (p : Phase) (t : TableState) : Prop
  | compared {table : Table} (htable : table ∈ c.old.tables) {comparison : TableComparison}
      (hcomparison : c.tableComparison? table = some comparison) {done rest : List TableChange}
      (hparting : comparison.Parting p done rest) (ht : t = (TableState.ofTable table).run done)
  | missing {table : Table} (htable : table ∈ c.old.tables) (hp : p ≤ .dropTable)
      (ht : t = TableState.ofTable table)
  | created {table : Table} (htable : table ∈ c.createdTables) (hp : .createTable ≤ p)
      {done : List TableChange} (hphase : ∀ change ∈ done, change.phase ≤ p)
      (hdone : ∀ change ∈ done, ∃ key ∈ table.foreignKeys, change = .addForeignKey key)
      (ht : t = (TableState.created table).run done)

/-- By default every table is looked at. -/
theorem mem_selectedTables (hoptions : c.options = .default) {table : Table}
    (htable : table ∈ c.old.tables) : table ∈ c.selectedTables := by
  refine List.mem_filter.mpr ⟨htable, ?_⟩
  rw [hoptions]
  rfl

theorem alterations_subset {steps : List Step} (h : steps ⊆ c.steps) (table : Text) :
    alterations table steps ⊆ alterations table c.steps :=
  List.filterMap_subset _ h

/-- No step changes a table that the second schema does not have. -/
theorem alterations_eq_nil_of_subset (hold : c.old.WellFormed) {table : Table}
    (htable : table ∈ c.old.tables) (hmissing : c.new.table? table.name = none)
    {steps : List Step} (h : steps ⊆ c.steps) : alterations table.name steps = [] := by
  have hsubset := alterations_subset h table.name
  rw [alterations_eq_nil hold htable hmissing] at hsubset
  exact List.subset_nil.mp hsubset

/-- A table that the second schema does not have stays as it is until it is dropped. -/
theorem Parting.tableFate_missing (h : c.Parting p done rest) (hold : c.old.WellFormed)
    (hoptions : c.options = .default) {table : Table} (htable : table ∈ c.old.tables)
    (hnone : c.new.table? table.name = none) (hdrop : .dropTable table.name ∉ done) :
    c.TableFate p ((TableState.ofTable table).run (alterations table.name done)) := by
  have hsteps : .dropTable table.name ∈ c.steps := by
    refine dropTable_mem.mpr ⟨by rw [hoptions]; rfl, List.mem_map_of_mem ?_⟩
    exact List.mem_filter.mpr ⟨mem_selectedTables hoptions htable, by simp [hnone]⟩
  have hunchanged : alterations table.name done = [] :=
    alterations_eq_nil_of_subset hold htable hnone fun _ hstep => h.mem_of_done hstep
  refine .missing htable (le_of_not_gt fun hlate => hdrop (h.mem_done hsteps hlate)) ?_
  rw [hunchanged]
  rfl

/-- The steps of one table are stopped at the same phase as all steps are. -/
theorem Parting.comparison (h : c.Parting p done rest) (hold : c.old.WellFormed)
    (hoptions : c.options = .default) {table : Table} (htable : table ∈ c.old.tables)
    {comparison : TableComparison} (hcomparison : c.tableComparison? table = some comparison) :
    comparison.Parting p (alterations table.name done) (alterations table.name rest) := by
  have hphase : ∀ (step : Step) (change : TableChange),
      step.alterationOf? table.name = some change → change.phase = step.phase :=
    fun _ _ => phase_of_alterationOf?
  have hparting := h.filterMap hphase
  have hchanges := alterations_eq_changes hold (mem_selectedTables hoptions htable) hcomparison
  rw [alterations] at hchanges
  rwa [hchanges] at hparting

/-- A table that both schemas have is somewhere in its own migration. -/
theorem Parting.tableFate_compared (h : c.Parting p done rest) (hold : c.old.WellFormed)
    (hoptions : c.options = .default) {table new : Table} (htable : table ∈ c.old.tables)
    (hfound : c.new.table? table.name = some new) :
    c.TableFate p ((TableState.ofTable table).run (alterations table.name done)) := by
  have hcomparison := tableComparison?_eq_some.mpr ⟨new, hfound, rfl⟩
  exact .compared htable hcomparison (h.comparison hold hoptions htable hcomparison) rfl

/-- Every table that is there at a moment has one of these fates. -/
theorem Parting.tableFate (h : c.Parting p done rest) (hold : c.old.WellFormed)
    (hnew : c.new.WellFormed) (hoptions : c.options = .default) {t : TableState}
    (ht : t ∈ ((SchemaState.ofSchema c.old).run done).tables) : c.TableFate p t := by
  rcases SchemaState.mem_tables_run ht with ⟨t₀, ht₀, rfl, hdrop⟩ |
    ⟨front, table, back, rfl, rfl, -⟩
  · obtain ⟨table, htable, rfl⟩ := List.mem_map.mp ht₀
    cases hfound : c.new.table? table.name with
    | none => exact h.tableFate_missing hold hoptions htable hfound hdrop
    | some new => exact h.tableFate_compared hold hoptions htable hfound
  · have hcreated : table ∈ c.createdTables := createTable_mem (h.mem_of_done (by simp))
    refine .created hcreated (h.le_of_done (.createTable table) (by simp)) ?_ ?_ rfl
    · intro change hchange
      obtain ⟨step, hstep, rfl⟩ := mem_alterations.mp hchange
      exact h.le_of_done (.alterTable table.name step) (by simp [hstep])
    · intro change hchange
      have hback : back ⊆ c.steps := fun step hstep => h.mem_of_done (by simp [hstep])
      exact mem_alterations_created hnew hcreated (alterations_subset hback _ hchange)

/-! ## What foreign keys demand -/

/-- Why columns of the table of a name are to be served at a moment: for a foreign key that
stays, for one that is about to go, or for one that is new. -/
inductive Demand (c : SchemaComparison) (p : Phase) (name : Text) (columns : List Text) : Prop
  | stays
      (hold : ∀ table ∈ c.old.tables, table.name = name →
        (TableState.ofTable table).Serves columns)
      (hnew : ∀ table ∈ c.new.tables, table.name = name →
        (TableState.ofTable table).Serves columns)
      (hlisted : ∀ table ∈ c.old.tables, table.name = name → ∀ comparison,
        c.tableComparison? table = some comparison → columns ∈ comparison.servedColumns)
  | goes (hp : p ≤ .dropTable)
      (hold : ∀ table ∈ c.old.tables, table.name = name →
        (TableState.ofTable table).Serves columns)
  | comes (hp : .addForeignKey ≤ p)
      (hnew : ∀ table ∈ c.new.tables, table.name = name →
        (TableState.ofTable table).Serves columns)

/-- Every table that is there serves what is demanded of it. -/
theorem IsRegular.serves_of_demand (hc : c.IsRegular) {t : TableState} (hfate : c.TableFate p t)
    {columns : List Text} (hdemand : c.Demand p t.name columns) : t.Serves columns := by
  cases hfate with
  | compared htable hcomparison hparting ht =>
      have hregular := hc.table htable hcomparison
      obtain ⟨new, hnewTable, rfl⟩ := tableComparison?_eq_some.mp hcomparison
      obtain ⟨hmem, hname⟩ := mem_of_find?_eq_some hnewTable
      subst ht
      rw [TableState.run_name] at hdemand
      cases hdemand with
      | stays hold hnew hlisted =>
          refine hparting.serves_of_servedColumns hregular ?_
            (hlisted _ htable rfl _ hcomparison) (hold _ htable rfl) (hnew new hmem hname)
          intro columns hcolumns x hx
          obtain ⟨-, _, -, _, -, key, -, -, -, rfl⟩ := mem_incoming.mp hcolumns
          exact columnName?_of_mem_namedColumns hx
      | goes hp hold =>
          exact hparting.serves_of_old (hp.trans (by decide)) (hold _ htable rfl)
      | comes hp hnew => exact hparting.serves_of_new hregular hp (hnew new hmem hname)
  | missing htable hp ht =>
      subst ht
      cases hdemand with
      | stays hold hnew hlisted => exact hold _ htable rfl
      | goes hp hold => exact hold _ htable rfl
      | comes hlate hnew =>
          exact absurd (hlate.trans hp) (show ¬ Phase.addForeignKey ≤ .dropTable by decide)
  | created htable hp hphase hdone ht =>
      subst ht
      have hmem := (new_of_mem_createdTables htable).1
      rw [TableState.serves_run_of_addForeignKey
        fun change hchange => (hdone change hchange).imp fun _ h => h.2]
      rw [TableState.run_name] at hdemand
      cases hdemand with
      | stays hold hnew hlisted => exact hnew _ hmem rfl
      | goes hearly hold =>
          exact absurd (hp.trans hearly) (show ¬ Phase.createTable ≤ .dropTable by decide)
      | comes hp hnew => exact hnew _ hmem rfl

/-- What a foreign key demands of its table and of the one that it refers to. -/
def Demands (c : SchemaComparison) (p : Phase) (table : Text) (key : ForeignKey) : Prop :=
  c.Demand p table (namedColumns key.parts) ∧ c.Demand p key.refTable (namedColumns key.refParts)

/-- So does a foreign key of the second schema, once columns are dropped. -/
theorem IsRegular.demands_of_new (hc : c.IsRegular) (hnew : c.new.ServesForeignKeys)
    (hp : .addForeignKey ≤ p) {table : Table} (htable : table ∈ c.new.tables) {key : ForeignKey}
    (hkey : key ∈ table.foreignKeys) : c.Demands p table.name key := by
  refine ⟨.comes hp ?_, .comes hp ?_⟩
  · intro other hother hname
    rw [eq_of_key_eq hc.new_wellFormed.tableNames_nodup hother htable hname]
    exact (hnew table htable key hkey).1
  · intro target htarget hname
    exact hnew.target hc.new_wellFormed htable hkey htarget hname

/-- And one of the first schema, before tables are dropped. -/
theorem IsRegular.demands_of_old (hc : c.IsRegular) (hold : c.old.ServesForeignKeys)
    (hp : p ≤ .dropTable) {table : Table} (htable : table ∈ c.old.tables) {key : ForeignKey}
    (hkey : key ∈ table.foreignKeys) : c.Demands p table.name key := by
  refine ⟨.goes hp ?_, .goes hp ?_⟩
  · intro other hother hname
    rw [eq_of_key_eq hc.old_wellFormed.tableNames_nodup hother htable hname]
    exact (hold table htable key hkey).1
  · intro target htarget hname
    exact hold.target hc.old_wellFormed htable hkey htarget hname

/-- And one that both schemas have, at any moment. -/
theorem IsRegular.demands_of_kept (hc : c.IsRegular) (hold : c.old.ServesForeignKeys)
    (hnew : c.new.ServesForeignKeys) {table new : Table} (htable : table ∈ c.old.tables)
    (hfound : c.new.table? table.name = some new) {key : ForeignKey}
    (hkey : key ∈ table.foreignKeys) (hkept : new.foreignKey? key.name = some key) :
    c.Demands p table.name key := by
  obtain ⟨hmem, hname⟩ := mem_of_find?_eq_some hfound
  obtain ⟨hnewKey, -⟩ := mem_of_find?_eq_some hkept
  have holdNodup := hc.old_wellFormed.tableNames_nodup
  refine ⟨.stays ?_ ?_ ?_, .stays ?_ ?_ ?_⟩
  · intro other hother hsame
    rw [eq_of_key_eq holdNodup hother htable hsame]
    exact (hold table htable key hkey).1
  · intro other hother hsame
    rw [eq_of_key_eq hc.new_wellFormed.tableNames_nodup hother hmem (hsame.trans hname.symm)]
    exact (hnew new hmem key hnewKey).1
  · intro other hother hsame comparison hcomparison
    obtain rfl := eq_of_key_eq holdNodup hother htable hsame
    obtain ⟨found, hother', rfl⟩ := tableComparison?_eq_some.mp hcomparison
    obtain rfl : new = found := Option.some.inj (hfound.symm.trans hother')
    refine List.mem_append_left _ (List.mem_map_of_mem (List.mem_filter.mpr ⟨hkey, ?_⟩))
    simp [TableComparison.keepsForeignKey, hkept]
  · intro target htarget hsame
    exact hold.target hc.old_wellFormed htable hkey htarget hsame
  · intro target htarget hsame
    exact hnew.target hc.new_wellFormed hmem hnewKey htarget hsame
  · intro target htarget hsame comparison hcomparison
    obtain ⟨found, -, rfl⟩ := tableComparison?_eq_some.mp hcomparison
    have hne := (hold.target hc.old_wellFormed htable hkey htarget hsame).1
    refine List.mem_append_right _ (mem_incoming.mpr ⟨hne, ?_⟩)
    exact ⟨table, htable, new, hfound, key, hkey, hsame.symm, hkept, rfl⟩

/-- Every foreign key that is there makes its demands. -/
theorem IsRegular.demands (hc : c.IsRegular) (hold : c.old.ServesForeignKeys)
    (hnew : c.new.ServesForeignKeys) {t : TableState} (hfate : c.TableFate p t) {key : ForeignKey}
    (hkey : key ∈ t.foreignKeys) : c.Demands p t.name key := by
  cases hfate with
  | compared htable hcomparison hparting ht =>
      subst ht
      rw [TableState.run_name]
      obtain ⟨new, hfound, rfl⟩ := tableComparison?_eq_some.mp hcomparison
      rcases TableState.mem_foreignKeys_run hkey with ⟨hmem, hdrop⟩ | hadd
      · by_cases hkept : new.foreignKey? key.name = some key
        · exact hc.demands_of_kept hold hnew htable hfound hmem hkept
        · refine hc.demands_of_old hold (le_of_not_gt fun hlate => hdrop ?_) htable hmem
          refine hparting.mem_done (TableComparison.dropForeignKey_mem.mpr ?_)
            (lt_trans (show Phase.dropForeignKey < .dropTable by decide) hlate)
          exact ⟨key, hmem, by simpa [TableComparison.keepsForeignKey] using hkept, rfl⟩
      · obtain ⟨hmem, hname⟩ := mem_of_find?_eq_some hfound
        have hnewKey := TableComparison.addForeignKey_mem.mp (hparting.mem_of_done hadd)
        have hdemands := hc.demands_of_new hnew (hparting.le_of_done _ hadd) hmem hnewKey.1
        rwa [hname] at hdemands
  | missing htable hp ht =>
      subst ht
      exact hc.demands_of_old hold hp htable hkey
  | created htable hp hphase hdone ht =>
      subst ht
      rw [TableState.run_name]
      rcases TableState.mem_foreignKeys_run hkey with ⟨hnone, -⟩ | hadd
      · cases hnone
      · obtain ⟨other, hmem, heq⟩ := hdone _ hadd
        obtain rfl := TableChange.addForeignKey.inj heq
        exact hc.demands_of_new hnew (hphase _ hadd) (new_of_mem_createdTables htable).1 hmem

end SchemaComparison

/-- Foreign keys stay served at both ends: between any two schemas that were read and in which
every foreign key is, the statements ask for steps, and behind any number of them every foreign
key that is there is served in its own table, and in the table that it refers to if that is
there. -/
theorem serves_of_run {c : SchemaComparison} {keepQuotes keepQuotes' : Bool}
    {source source' oldText newText : Text}
    (hold : Schema.parse keepQuotes source oldText = .ok c.old)
    (hnew : Schema.parse keepQuotes' source' newText = .ok c.new)
    (hoptions : c.options = .default) (holdKeys : c.old.ServesForeignKeys)
    (hnewKeys : c.new.ServesForeignKeys)
    (holdNames : ∀ table ∈ c.old.tables, table.HasNoGuardName)
    (hnewNames : ∀ table ∈ c.new.tables, table.HasNoGuardName) (k : Nat) :
    List.Forall₂ Statement.Executes (c.statements.take k) (c.steps.take k) ∧
    ∀ t ∈ ((SchemaState.ofSchema c.old).run (c.steps.take k)).tables, ∀ key ∈ t.foreignKeys,
      t.Serves (namedColumns key.parts) ∧
      ∀ target ∈ ((SchemaState.ofSchema c.old).run (c.steps.take k)).tables,
        target.name = key.refTable → target.Serves (namedColumns key.refParts) := by
  refine ⟨List.forall₂_take k c.executes_statements, ?_⟩
  intro t ht key hkey
  have hc : c.IsRegular := {
    old_wellFormed := Schema.wellFormed_of_parse hold
    new_wellFormed := Schema.wellFormed_of_parse hnew
    old_noGuardName := holdNames
    new_noGuardName := hnewNames }
  obtain ⟨p, (h : c.Parting p (c.steps.take k) (c.steps.drop k))⟩ :=
    Phase.exists_parting c.pairwise_steps k
  have hfate : ∀ {t}, t ∈ ((SchemaState.ofSchema c.old).run (c.steps.take k)).tables →
      c.TableFate p t :=
    fun ht => h.tableFate hc.old_wellFormed hc.new_wellFormed hoptions ht
  obtain ⟨hown, htarget⟩ := hc.demands holdKeys hnewKeys (hfate ht) hkey
  refine ⟨hc.serves_of_demand (hfate ht) hown, ?_⟩
  rintro target hmem hname
  rw [← hname] at htarget
  exact hc.serves_of_demand (hfate hmem) htarget

/-- A table with an index of the given sort, to which a foreign key refers. -/
def parentText (keyword : Text) : Text :=
  "CREATE TABLE p (\n  id int,\n  " ++ keyword ++ " by_id (id)\n);"

/-- A table with that foreign key. -/
def childText : Text :=
  "CREATE TABLE c (\n  p int,\n  KEY by_p (p),\n" ++
  "  CONSTRAINT f FOREIGN KEY (p) REFERENCES p (id)\n);"

/-- A schema of these two tables. -/
def family (keyword : Text) (kind : IndexKind) : Schema where
  tables := [
    { name := "p", columns := [⟨"id", "int", 0⟩], indexes := [⟨"by_id", kind, ["id"], []⟩]
      primaryKey := none, foreignKeys := [], checks := [], options := []
      definition := parentText keyword },
    { name := "c", columns := [⟨"p", "int", 0⟩], indexes := [⟨"by_p", .plain, ["p"], []⟩]
      primaryKey := none, foreignKeys := [⟨"f", ["p"], "p", ["id"], []⟩], checks := []
      options := [], definition := childText }]
  views := []
  routines := []
  source := []

/-- The index that a foreign key refers to becomes a unique one. -/
def rebuilt : SchemaComparison where
  old := family "KEY" .plain
  new := family "UNIQUE KEY" .unique
  options := .default

/-- There a guard alone serves the columns that are referred to once the index is dropped. -/
theorem serves_of_run_rebuilt :
    ((SchemaState.ofSchema rebuilt.old).run (rebuilt.steps.take 2)).tables.map (·.indexNames)
      = [["temp_" ++ Digest.md5 "id"], ["by_p"]] ∧
    ∀ t ∈ ((SchemaState.ofSchema rebuilt.old).run (rebuilt.steps.take 2)).tables,
      ∀ key ∈ t.foreignKeys, t.Serves (namedColumns key.parts) ∧
        ∀ target ∈ ((SchemaState.ofSchema rebuilt.old).run (rebuilt.steps.take 2)).tables,
          target.name = key.refTable → target.Serves (namedColumns key.refParts) := by
  have hnames : ∀ keyword kind, ∀ table ∈ (family keyword kind).tables,
      table.HasNoGuardName := by
    intro keyword kind table htable
    refine Table.hasNoGuardName_of_forall ?_
    simp only [family, List.mem_cons, List.not_mem_nil, or_false] at htable
    rcases htable with rfl | rfl
    · show ∀ name ∈ (["by_id", "id"] : List Text), _
      decide +kernel
    · show ∀ name ∈ (["by_p", "p"] : List Text), _
      decide +kernel
  refine ⟨by decide +kernel, ?_⟩
  exact (serves_of_run
    (show Schema.parse false [] (parentText "KEY" ++ "\n" ++ childText) = .ok rebuilt.old by
      decide +kernel)
    (show Schema.parse false [] (parentText "UNIQUE KEY" ++ "\n" ++ childText) = .ok rebuilt.new by
      decide +kernel)
    rfl (by decide +kernel) (by decide +kernel) (hnames _ _) (hnames _ _) 2).2

end SchemaMigration
