import SchemaMigration.Proofs.Migration.KeyRoute
import SchemaMigration.Proofs.Migration.Replay

/-!
# Migrations of tables can be replayed and converge

The server accepts every change of a table in its turn, and behind the last one the indexes, the
foreign keys and the check constraints are those of the new table. The outline of the table is
followed through three stretches of the migration: until only what stays and the guards are
there, until all columns and keys of the new table are there too, and to the end.

## Main Definitions

* `TableComparison.Fits`, `Fits.reaches_additionsBehind` - columns are added with their keys
* `TableComparison.guarded` - the outline once old keys are gone
* `IsReplayable.reaches_guarded`, `reaches_extended`, `reaches_converged` - the three stretches
* `replays_and_converges` - the whole migration
-/

namespace SchemaMigration

namespace TableComparison

variable {c : TableComparison} {o : Outline}

/-! ## Columns with their keys -/

/-- A column is placed behind one that is there. -/
theorem mem_of_placement_eq_after {placed : List Text} {column : Column} {previous : Text}
    (h : c.placement placed column = .after previous) : previous ∈ placed := by
  rw [placement] at h
  split at h
  · cases h
  · split at h
    · cases h
    · split at h
      · rename_i found hfound
        obtain rfl := Placement.after.inj h
        simpa using List.find?_some hfound
      · cases h

/-- Columns that may be added to an outline one after the other: their names are new, and those of
the indexes that they bring, at most one brings a primary key, and no key names a column that is
still to come. -/
structure Fits (c : TableComparison) (o : Outline) (columns : List Column) : Prop where
  names : (o.columns ++ columns.map (·.name)).Nodup
  indexes : ((o.indexes ++ columns.filterMap fun column =>
    (c.inlineKey column).index? column.name).map (·.name)).Nodup
  vacant : ∀ column ∈ columns, ∀ key, (c.inlineKey column).primaryKey? column.name = some key →
    o.primaryKey = none
  once : columns.Pairwise fun a b => (c.inlineKey a).primaryKey? a.name = none ∨
    (c.inlineKey b).primaryKey? b.name = none
  keys : ∀ front column back, columns = front ++ column :: back →
    (∀ index, (c.inlineKey column).index? column.name = some index →
      namedColumns index.parts ⊆ o.columns ++ (front.map (·.name) ++ [column.name])) ∧
    ∀ key, (c.inlineKey column).primaryKey? column.name = some key →
      namedColumns key.parts ⊆ o.columns ++ (front.map (·.name) ++ [column.name])

theorem append_columnNames_cons (names : List Text) (column : Column) (columns : List Column) :
    names ++ (column :: columns).map (·.name)
      = names ++ [column.name] ++ columns.map (·.name) := by
  simp

theorem append_inlineIndexes_cons (indexes : List Index) (column : Column)
    (columns : List Column) :
    indexes ++ (column :: columns).filterMap (fun a => (c.inlineKey a).index? a.name)
      = indexes ++ ((c.inlineKey column).index? column.name).toList ++
        columns.filterMap fun a => (c.inlineKey a).index? a.name := by
  cases hbrings : (c.inlineKey column).index? column.name <;> simp [hbrings]

/-- The first column is accepted. -/
theorem Fits.reaches_head {column : Column} {columns : List Column}
    (h : c.Fits o (column :: columns)) :
    o.Reaches [.addColumn column.name column.definition (c.inlineKey column)
      (c.placement o.columns column)] (o.withColumn column.name (c.inlineKey column)) := by
  have hname : column.name ∉ o.columns := by
    intro hin
    exact (List.nodup_append.mp h.names).2.2 _ hin column.name (by simp) rfl
  obtain ⟨hindexColumns, hkeyColumns⟩ := h.keys [] column columns rfl
  refine Outline.reaches_addColumn hname (fun _ => mem_of_placement_eq_after) ?_ ?_
  · intro index hbrings
    refine ⟨?_, hindexColumns index hbrings⟩
    intro hin
    obtain ⟨other, hother, hsame⟩ := List.mem_map.mp hin
    refine (nodup_map_append.mp h.indexes).2.2 other hother index ?_ hsame
    exact List.mem_filterMap.mpr ⟨column, by simp, hbrings⟩
  · intro key hbrings
    exact ⟨h.vacant column (by simp) key hbrings, hkeyColumns key hbrings⟩

/-- The other columns may be added behind it. -/
theorem Fits.tail {column : Column} {columns : List Column} (h : c.Fits o (column :: columns)) :
    c.Fits (o.withColumn column.name (c.inlineKey column)) columns where
  names := by
    have hnames := h.names
    rwa [append_columnNames_cons] at hnames
  indexes := by
    have hindexes := h.indexes
    rwa [append_inlineIndexes_cons] at hindexes
  vacant := by
    intro later hlater key hbrings
    -- Of two columns that would bring a primary key there is at most one.
    rcases (List.pairwise_cons.mp h.once).1 later hlater with hnothing | hnothing
    · rw [Outline.withColumn, hnothing, Option.none_or]
      exact h.vacant later (List.mem_cons_of_mem _ hlater) key hbrings
    · rw [hnothing] at hbrings
      cases hbrings
  once := (List.pairwise_cons.mp h.once).2
  keys := by
    intro front later back hcolumns
    have hlater := h.keys (column :: front) later back (by rw [hcolumns]; rfl)
    have hbehind : o.columns ++ ((column :: front).map (·.name) ++ [later.name])
        = o.columns ++ [column.name] ++ (front.map (·.name) ++ [later.name]) := by simp
    rwa [hbehind] at hlater

/-- Columns that fit are added with the keys that they bring. -/
theorem Fits.reaches_additionsBehind {columns : List Column} (h : c.Fits o columns) :
    ∃ primaryKey, o.Reaches ((c.additionsBehind o.columns columns).map (·.change))
        { o with
          columns := o.columns ++ columns.map (·.name)
          indexes := o.indexes ++ columns.filterMap fun column =>
            (c.inlineKey column).index? column.name
          primaryKey } ∧
      (o.primaryKey = none →
        (∀ column ∈ columns, (c.inlineKey column).primaryKey? column.name = none) →
          primaryKey = none) := by
  induction columns generalizing o with
  | nil => exact ⟨o.primaryKey, by simpa [additionsBehind] using Outline.reaches_nil, fun h _ => h⟩
  | cons column columns ih =>
      obtain ⟨primaryKey, hrest, hstays⟩ := ih h.tail
      refine ⟨primaryKey, ?_, ?_⟩
      · rw [append_columnNames_cons, append_inlineIndexes_cons]
        exact h.reaches_head.append hrest
      · intro hbefore hnothing
        obtain ⟨hnothingFirst, hnothing⟩ := List.forall_mem_cons.mp hnothing
        refine hstays ?_ hnothing
        rw [Outline.withColumn, hnothingFirst, Option.none_or, hbefore]

/-! ## Until old keys are gone -/

/-- Phases without changes of columns, keys and constraints. -/
def quietPhases : List Phase :=
  [.dropRoutine, .dropView, .dropTable, .removePartitioning, .changeOptions, .createTable,
    .createView, .createRoutine, .partitionTable]

/-- They leave the outline as it is. -/
theorem reaches_quiet (phases : List Phase) (hquiet : phases ⊆ quietPhases) :
    o.Reaches (phases.flatMap c.changesIn) o := by
  refine Outline.reaches_same ?_
  intro change hchange
  obtain ⟨p, hp, hchange⟩ := List.mem_flatMap.mp hchange
  obtain rfl := c.phase_of_mem_changesIn hchange
  cases change with
  | changeOptions | removePartitioning | setPartitioning =>
      exact Outline.reaches_single fun s hs => ⟨trivial, { hs with }⟩
  | _ => exact absurd (hquiet hp) (by simp [TableChange.phase, quietPhases])

/-- The foreign keys that stay. -/
def keptForeignKeys (c : TableComparison) : List ForeignKey :=
  c.old.foreignKeys.filter c.keepsForeignKey

/-- The check constraints that stay. -/
def keptChecks (c : TableComparison) : List CheckConstraint := c.old.checks.filter c.keepsCheck

/-- Foreign keys and check constraints that do not stay are dropped. -/
theorem IsRegular.reaches_dropForeignKey (hc : c.IsRegular)
    (hkeys : o.foreignKeys = c.old.foreignKeys) (hchecks : o.checks = c.old.checks) :
    o.Reaches (c.changesIn .dropForeignKey)
      ((o.withForeignKeys c.keptForeignKeys).withChecks c.keptChecks) := by
  let o' := o.withForeignKeys c.keptForeignKeys
  have hdropKeys := Outline.reaches_drops (·.name) o.withForeignKeys
    (fun _ _ h => Outline.reaches_dropForeignKey h)
    (nodup_filter (! c.keepsForeignKey ·) hc.old_wellFormed.foreignKeyNames_nodup)
    (List.filter_sublist.map _).subset
  have hdropChecks := Outline.reaches_drops (·.name) o'.withChecks
    (fun _ _ h => Outline.reaches_dropCheck h)
    (nodup_filter (! c.keepsCheck ·) hc.old_wellFormed.checkNames_nodup)
    (List.filter_sublist.map _).subset
  rw [filter_notMem_map hc.old_wellFormed.foreignKeyNames_nodup, List.map_map,
    Outline.withForeignKeys_eq_self hkeys] at hdropKeys
  rw [filter_notMem_map hc.old_wellFormed.checkNames_nodup, List.map_map,
    Outline.withChecks_eq_self (o := o') hchecks] at hdropChecks
  rw [changesIn_dropForeignKey]
  exact hdropKeys.append hdropChecks

/-- The guards are added. -/
theorem IsReplayable.reaches_guardIndex (hc : c.IsReplayable)
    (hcolumns : o.columns = c.old.columnNames) (hindexes : o.indexes = c.old.indexes) :
    o.Reaches (c.changesIn .guardIndex) (o.withIndexes (c.old.indexes ++ c.guardIndexes)) := by
  have hguards : (o.withIndexes c.old.indexes).Reaches
      (c.guards.map fun guard => .addGuard guard.name guard.columns)
      (o.withIndexes (c.old.indexes ++ c.guardIndexes)) := by
    refine Outline.reaches_adds (·.name) o.withIndexes ?_ hc.hasFreshGuards.names_nodup
    intro guard hguard items hnew
    refine Outline.reaches_addGuard hnew ?_
    rw [hc.isRoutable.namedColumns_guardIndex hguard]
    have hold := hc.guard_columns hguard
    rwa [← hcolumns] at hold
  rw [Outline.withIndexes_eq_self hindexes] at hguards
  rw [changesIn_guardIndex]
  exact hguards

/-- The indexes that do not stay are dropped. -/
theorem IsReplayable.reaches_dropIndex (hc : c.IsReplayable)
    (hindexes : o.indexes = c.old.indexes ++ c.guardIndexes) :
    o.Reaches (c.changesIn .dropIndex) (o.withIndexes (c.keptIndexes ++ c.guardIndexes)) := by
  have hdrops : (o.withIndexes (c.old.indexes ++ c.guardIndexes)).Reaches
      (((c.old.indexes.filter (! c.keepsIndex ·)).map (·.name)).map .dropIndex)
      (o.withIndexes ((c.old.indexes ++ c.guardIndexes).filter fun index =>
        index.name ∉ (c.old.indexes.filter (! c.keepsIndex ·)).map (·.name))) := by
    refine Outline.reaches_drops (·.name) o.withIndexes (fun _ _ h => Outline.reaches_dropIndex h)
      (nodup_filter _ hc.old_wellFormed.indexNames_nodup) ?_
    rw [List.map_append]
    exact List.subset_append_of_subset_left _ (List.filter_sublist.map _).subset
  rw [filter_dropped hc.hasFreshGuards.names_nodup, List.map_map,
    Outline.withIndexes_eq_self hindexes] at hdrops
  rw [changesIn_dropIndex]
  exact hdrops

/-- The primary key is dropped if there is to be another one. -/
theorem reaches_dropPrimaryKey (hkey : o.primaryKey = c.old.primaryKey) :
    o.Reaches (c.changesIn .dropPrimaryKey)
      (o.withPrimaryKey (if c.changesPrimaryKey then none else c.old.primaryKey)) := by
  have hsame : o.withPrimaryKey c.old.primaryKey = o := Outline.withPrimaryKey_eq_self hkey
  rw [changesIn_dropPrimaryKey]
  cases c.changesPrimaryKey with
  | false =>
      simp only [Bool.false_eq_true, if_false, hsame]
      exact Outline.reaches_nil
  | true =>
      simp only [if_true]
      cases hold : c.old.primaryKey with
      | none =>
          rw [hold] at hsame
          rw [hsame]
          exact Outline.reaches_nil
      | some key => exact Outline.reaches_dropPrimaryKey (by simp [hkey, hold])

/-- The outline once old keys are gone: what stays, and the guards. -/
def guarded (c : TableComparison) : Outline where
  columns := c.old.columnNames
  indexes := c.keptIndexes ++ c.guardIndexes
  primaryKey := if c.changesPrimaryKey then none else c.old.primaryKey
  foreignKeys := c.keptForeignKeys
  checks := c.keptChecks

/-- The first stretch, until old keys are gone. -/
theorem IsReplayable.reaches_guarded (hc : c.IsReplayable) :
    (Outline.ofTable c.old).Reaches
      ([Phase.dropForeignKey, .dropRoutine, .dropView, .dropTable, .removePartitioning,
        .changeOptions, .createTable, .guardIndex, .dropIndex, .dropPrimaryKey].flatMap
          c.changesIn) c.guarded := by
  have hphases : [Phase.dropForeignKey, .dropRoutine, .dropView, .dropTable, .removePartitioning,
      .changeOptions, .createTable, .guardIndex, .dropIndex, .dropPrimaryKey].flatMap c.changesIn
      = c.changesIn .dropForeignKey ++ ([Phase.dropRoutine, .dropView, .dropTable,
          .removePartitioning, .changeOptions, .createTable].flatMap c.changesIn ++
        (c.changesIn .guardIndex ++ (c.changesIn .dropIndex ++ c.changesIn .dropPrimaryKey))) := by
    simp
  rw [hphases]
  refine (hc.reaches_dropForeignKey rfl rfl).append ?_
  refine (reaches_quiet _ (by decide)).append ?_
  refine (hc.reaches_guardIndex rfl rfl).append ?_
  refine (hc.reaches_dropIndex rfl).append ?_
  exact reaches_dropPrimaryKey rfl

/-! ## Until the new table is there -/

/-- Columns with other definitions keep their names. -/
theorem reaches_changeColumn (hcolumns : o.columns = c.old.columnNames) :
    o.Reaches (c.changesIn .changeColumn) o := by
  refine Outline.reaches_same ?_
  intro change hchange
  rw [changesIn_changeColumn] at hchange
  obtain ⟨column, hcolumn, hchange⟩ := List.mem_filterMap.mp hchange
  obtain ⟨new, -, rfl⟩ := Option.map_eq_some_iff.mp hchange
  refine Outline.reaches_changeColumn ?_
  rw [hcolumns]
  exact List.mem_map_of_mem hcolumn

/-- An added auto-increment column is the last one. -/
theorem IsReplayable.addedColumns_pairwise (hc : c.IsReplayable) :
    c.addedColumns.Pairwise fun column _ => column.isAutoIncrement = false := by
  have hnodup := (addedNames_nodup hc.new_wellFormed).of_map
  have hmem : ∀ column ∈ c.addedColumns, column ∈ c.new.columns :=
    fun column hcolumn => (mem_addedColumns.mp hcolumn).1
  rw [addedColumns] at hnodup hmem ⊢
  rw [List.nodup_append] at hnodup
  rw [List.pairwise_append]
  refine ⟨?_, ?_, ?_⟩
  · refine List.pairwise_iff_forall_sublist.mpr ?_
    intro column _ hpair
    have hin := hpair.subset (by simp : column ∈ [column, _])
    simpa using (List.mem_filter.mp hin).2
  · refine hnodup.2.1.imp_of_mem ?_
    intro column column' hcolumn hcolumn' hne
    refine absurd (hc.eq_of_isAutoIncrement (hmem column ?_) (hmem column' ?_)
      (List.mem_filter.mp hcolumn).2 (List.mem_filter.mp hcolumn').2) hne
    · exact List.mem_append_right _ hcolumn
    · exact List.mem_append_right _ hcolumn'
  · intro column hcolumn _ _
    simpa using (List.mem_filter.mp hcolumn).2

/-- When an auto-increment column is added, all other columns of the new table are there. -/
theorem IsReplayable.newColumnNames_subset_of_auto (hc : c.IsReplayable) {front back : List Column}
    {column : Column} (hsplit : c.addedColumns = front ++ column :: back)
    (hauto : column.isAutoIncrement = true) :
    c.new.columnNames ⊆ c.old.columnNames ++ (front.map (·.name) ++ [column.name]) := by
  have hpairwise := hc.addedColumns_pairwise
  rw [hsplit] at hpairwise
  have hback : back = [] := by
    cases back with
    | nil => rfl
    | cons later back =>
        have hlast := (List.pairwise_cons.mp (List.pairwise_append.mp hpairwise).2.1).1
        rw [hlast later (by simp)] at hauto
        cases hauto
  have hall := newColumnNames_subset (c := c)
  rw [hsplit, hback, List.map_append] at hall
  exact hall

/-- When a column is added, all columns that its key names are there. -/
theorem IsReplayable.inlineKey_columns (hc : c.IsReplayable) {front back : List Column}
    {column : Column} (hsplit : c.addedColumns = front ++ column :: back) :
    (∀ index, (c.inlineKey column).index? column.name = some index →
      namedColumns index.parts ⊆ c.old.columnNames ++ (front.map (·.name) ++ [column.name])) ∧
    ∀ key, (c.inlineKey column).primaryKey? column.name = some key →
      namedColumns key.parts ⊆ c.old.columnNames ++ (front.map (·.name) ++ [column.name]) := by
  constructor
  · intro index hbrings
    obtain ⟨hnew, -, hmay⟩ := index?_inlineKey hbrings
    rcases hmay with ⟨hauto, -⟩ | ⟨-, hsingle⟩
    · exact List.Subset.trans (hc.new_wellFormed.index_columns index hnew)
        (hc.newColumnNames_subset_of_auto hsplit hauto)
    · intro x hx
      have hitself := hc.new_wellFormed.index_namesItself index hnew
      rw [hsingle] at hx hitself
      obtain ⟨part, hpart, hname⟩ := mem_namedColumns.mp hx
      rw [List.mem_singleton.mp hpart] at hname
      rw [hitself x hname]
      simp
  · intro key hbrings
    obtain ⟨-, new, hnew, -, hnamed, -, hauto | hsingle⟩ := primaryKey?_inlineKey hbrings
    · rw [hnamed]
      exact List.Subset.trans (hc.new_wellFormed.primaryKey_columns new hnew)
        (hc.newColumnNames_subset_of_auto hsplit hauto)
    · rw [hnamed, hsingle]
      simp

/-- At most one column brings the primary key. -/
theorem IsReplayable.eq_of_inline_primaryKey (hc : c.IsReplayable) {column column' : Column}
    (hcolumn : column ∈ c.addedColumns) (hcolumn' : column' ∈ c.addedColumns)
    {key key' : PrimaryKey} (hbrings : (c.inlineKey column).primaryKey? column.name = some key)
    (hbrings' : (c.inlineKey column').primaryKey? column'.name = some key') :
    column = column' := by
  have hmem := (mem_addedColumns.mp hcolumn).1
  have hmem' := (mem_addedColumns.mp hcolumn').1
  obtain ⟨-, new, hnew, -, -, hin, hkind⟩ := primaryKey?_inlineKey hbrings
  obtain ⟨-, new', hnew', -, -, hin', hkind'⟩ := primaryKey?_inlineKey hbrings'
  obtain rfl : new = new' := Option.some.inj (hnew.symm.trans hnew')
  have heq : column.name = column'.name → column = column' :=
    fun h => eq_of_key_eq hc.new_wellFormed.columnNames_nodup hmem hmem' h
  rcases hkind with hauto | hsingle
  · rcases hkind' with hauto' | hsingle'
    · exact hc.eq_of_isAutoIncrement hmem hmem' hauto hauto'
    · rw [hsingle'] at hin
      exact heq (List.mem_singleton.mp hin)
  · rw [hsingle] at hin'
    exact heq (List.mem_singleton.mp hin').symm

/-- The columns that only the new table has fit behind the old ones. -/
theorem IsReplayable.fits_addedColumns (hc : c.IsReplayable) :
    c.Fits c.guarded c.addedColumns where
  names := oldNames_addedNames_nodup hc.old_wellFormed hc.new_wellFormed
  indexes := hc.isRoutable.extendedIndexes_nodup
  vacant := by
    intro column _ key hbrings
    rw [guarded, (primaryKey?_inlineKey hbrings).1]
    rfl
  once := by
    refine (addedNames_nodup hc.new_wellFormed).of_map.imp_of_mem ?_
    intro a b ha hb hne
    cases hbrings : (c.inlineKey a).primaryKey? a.name with
    | none => exact Or.inl rfl
    | some key =>
        refine Or.inr (Option.eq_none_iff_forall_ne_some.mpr ?_)
        intro key' hbrings'
        exact hne (hc.eq_of_inline_primaryKey ha hb hbrings hbrings')
  keys := fun _ _ _ hsplit => hc.inlineKey_columns hsplit

/-- They are added, with their keys. -/
theorem IsReplayable.reaches_addColumn (hc : c.IsReplayable) :
    ∃ primaryKey, c.guarded.Reaches (c.changesIn .addColumn)
        { c.guarded with
          columns := c.old.columnNames ++ c.addedColumns.map (·.name)
          indexes := c.keptIndexes ++ c.guardIndexes ++ c.inlineIndexes
          primaryKey } ∧
      (c.changesPrimaryKey = true → c.addsPrimaryKeyInline = false → primaryKey = none) := by
  obtain ⟨primaryKey, hreaches, hnone⟩ := hc.fits_addedColumns.reaches_additionsBehind
  refine ⟨primaryKey, ?_, ?_⟩
  · rw [changesIn_addColumn]
    exact hreaches
  · intro hchanges hinline
    refine hnone ?_ ?_
    · rw [guarded, hchanges]
      rfl
    · intro column hcolumn
      refine Option.eq_none_iff_forall_ne_some.mpr ?_
      intro key hbrings
      rw [addsPrimaryKeyInline_iff.mpr ⟨column, hcolumn, key, hbrings⟩] at hinline
      cases hinline

/-- The primary key is added, if it is new and did not arrive with a column. -/
theorem IsReplayable.reaches_addPrimaryKey (hc : c.IsReplayable)
    (hcolumns : c.new.columnNames ⊆ o.columns)
    (hnone : c.changesPrimaryKey = true → c.addsPrimaryKeyInline = false → o.primaryKey = none) :
    ∃ primaryKey, o.Reaches (c.changesIn .addPrimaryKey) (o.withPrimaryKey primaryKey) := by
  have hstays : o.Reaches [] (o.withPrimaryKey o.primaryKey) := Outline.reaches_nil
  rw [changesIn_addPrimaryKey]
  split
  · rename_i hadds
    simp only [Bool.and_eq_true, Bool.not_eq_true'] at hadds
    cases hnew : c.new.primaryKey with
    | none => exact ⟨_, hstays⟩
    | some key =>
        refine ⟨some key, Outline.reaches_addPrimaryKey (hnone hadds.1 hadds.2) ?_⟩
        exact List.Subset.trans (hc.new_wellFormed.primaryKey_columns key hnew) hcolumns
  · exact ⟨_, hstays⟩

/-- The remaining indexes of the new table are added. -/
theorem IsReplayable.reaches_addIndex (hc : c.IsReplayable)
    (hcolumns : c.new.columnNames ⊆ o.columns)
    (hindexes : o.indexes = c.keptIndexes ++ c.guardIndexes ++ c.inlineIndexes) :
    o.Reaches (c.changesIn .addIndex) (o.withIndexes c.routes) := by
  have hadds : (o.withIndexes (c.keptIndexes ++ c.guardIndexes ++ c.inlineIndexes)).Reaches
      (c.furtherIndexes.map .addIndex) (o.withIndexes c.routes) := by
    refine Outline.reaches_adds_self (·.name) o.withIndexes ?_ hc.isRoutable.routes_nodup
    intro index hindex items hnew
    refine Outline.reaches_addIndex hnew ?_
    exact List.Subset.trans (hc.new_wellFormed.index_columns index (mem_furtherIndexes.mp hindex).1)
      hcolumns
  rw [Outline.withIndexes_eq_self hindexes] at hadds
  rw [changesIn_addIndex]
  exact hadds

/-- The second stretch, until the new table is there. -/
theorem IsReplayable.reaches_extended (hc : c.IsReplayable) :
    ∃ primaryKey, c.guarded.Reaches
      ([Phase.changeColumn, .addColumn, .addPrimaryKey, .addIndex].flatMap c.changesIn)
      { c.guarded with
        columns := c.old.columnNames ++ c.addedColumns.map (·.name)
        indexes := c.routes
        primaryKey } := by
  obtain ⟨primaryKey, hcolumns, hnone⟩ := hc.reaches_addColumn
  obtain ⟨primaryKey', hkey⟩ := hc.reaches_addPrimaryKey
    (o := { c.guarded with
      columns := c.old.columnNames ++ c.addedColumns.map (·.name)
      indexes := c.keptIndexes ++ c.guardIndexes ++ c.inlineIndexes
      primaryKey }) newColumnNames_subset hnone
  refine ⟨primaryKey', ?_⟩
  simp only [List.flatMap_cons, List.flatMap_nil, List.append_nil]
  refine (reaches_changeColumn rfl).append ?_
  refine hcolumns.append ?_
  refine hkey.append ?_
  exact hc.reaches_addIndex newColumnNames_subset rfl

/-! ## To the end -/

/-- Behind the dropped columns only guards over them are gone. -/
theorem IsReplayable.reaches_dropColumn (hc : c.IsReplayable)
    (hcolumns : c.old.columnNames ⊆ o.columns) (hindexes : o.indexes = c.routes) :
    ∃ primaryKey, o.Reaches (c.changesIn .dropColumn)
      { o with
        columns := o.columns.filter (· ∉ c.droppedNames)
        indexes := c.remainingIndexes
        primaryKey } := by
  have hnodup : c.droppedNames.Nodup := nodup_filter _ hc.old_wellFormed.columnNames_nodup
  have hdropped : c.droppedNames ⊆ o.columns :=
    fun d hd => hcolumns (mem_droppedNames.mp hd).1
  have hroutes : ∀ index ∈ o.indexes, Outline.StaysOrGoes c.droppedNames index := by
    rw [hindexes]
    exact fun index hindex => hc.isRoutable.staysOrGoes_of_mem_routes hindex
  obtain ⟨primaryKey, hreaches⟩ := Outline.reaches_dropColumns hnodup hdropped hroutes
  refine ⟨primaryKey, ?_⟩
  rw [hindexes] at hreaches
  rw [changesIn_dropColumn]
  rw [droppedNames, List.map_map] at hreaches
  exact hreaches

/-- The foreign keys that are new or to be re-created. -/
def addedForeignKeys (c : TableComparison) : List ForeignKey :=
  c.new.foreignKeys.filter fun key => c.old.foreignKey? key.name != some key

/-- The check constraints that are new or to be re-created. -/
def addedChecks (c : TableComparison) : List CheckConstraint :=
  c.new.checks.filter fun check => c.old.check? check.name != some check

/-- Foreign keys that stay and those that are added are those of the new table. -/
theorem IsRegular.foreignKeys_perm (hc : c.IsRegular) :
    (c.keptForeignKeys ++ c.addedForeignKeys).Perm c.new.foreignKeys := by
  refine kept_append_added_perm hc.old_wellFormed.foreignKeyNames_nodup
    hc.new_wellFormed.foreignKeyNames_nodup ?_ ?_
  · simp [keepsForeignKey, Table.foreignKey?]
  · simp [Table.foreignKey?]

/-- So it is with check constraints. -/
theorem IsRegular.checks_perm (hc : c.IsRegular) :
    (c.keptChecks ++ c.addedChecks).Perm c.new.checks := by
  refine kept_append_added_perm hc.old_wellFormed.checkNames_nodup
    hc.new_wellFormed.checkNames_nodup ?_ ?_
  · simp [keepsCheck, Table.check?]
  · simp [Table.check?]

/-- The foreign keys and check constraints that are new are added. -/
theorem IsRegular.reaches_addForeignKey (hc : c.IsRegular)
    (hcolumns : c.new.columnNames ⊆ o.columns) (hkeys : o.foreignKeys = c.keptForeignKeys)
    (hchecks : o.checks = c.keptChecks) :
    o.Reaches (c.changesIn .addForeignKey)
      ((o.withForeignKeys (c.keptForeignKeys ++ c.addedForeignKeys)).withChecks
        (c.keptChecks ++ c.addedChecks)) := by
  let o' := o.withForeignKeys (c.keptForeignKeys ++ c.addedForeignKeys)
  have haddKeys : (o.withForeignKeys c.keptForeignKeys).Reaches
      (c.addedForeignKeys.map .addForeignKey) o' := by
    refine Outline.reaches_adds_self (·.name) o.withForeignKeys ?_
      ((hc.foreignKeys_perm.map _).nodup_iff.mpr hc.new_wellFormed.foreignKeyNames_nodup)
    intro key hkey keys hnew
    refine Outline.reaches_addForeignKey hnew ?_
    exact List.Subset.trans
      (hc.new_wellFormed.foreignKey_columns key (List.mem_filter.mp hkey).1) hcolumns
  have haddChecks : (o'.withChecks c.keptChecks).Reaches (c.addedChecks.map .addCheck)
      (o'.withChecks (c.keptChecks ++ c.addedChecks)) :=
    Outline.reaches_adds_self (·.name) o'.withChecks
      (fun _ _ _ hnew => Outline.reaches_addCheck hnew)
      ((hc.checks_perm.map _).nodup_iff.mpr hc.new_wellFormed.checkNames_nodup)
  rw [Outline.withForeignKeys_eq_self hkeys] at haddKeys
  rw [Outline.withChecks_eq_self (o := o') hchecks] at haddChecks
  rw [changesIn_addForeignKey]
  exact haddKeys.append haddChecks

/-- The guards that are still there and not adopted are dropped. -/
theorem IsReplayable.reaches_dropGuardIndex (hc : c.IsReplayable)
    (hindexes : o.indexes = c.remainingIndexes) :
    o.Reaches (c.changesIn .dropGuardIndex) (o.withIndexes c.lastingIndexes) := by
  have hdrops := Outline.reaches_drops (·.name) o.withIndexes
    (fun _ _ h => Outline.reaches_dropGuard h) hc.hasFreshGuards.droppedGuardNames_nodup
    hc.isRoutable.droppedGuardNames_subset
  rw [Outline.withIndexes_eq_self hindexes, droppedGuardNames, List.map_map] at hdrops
  rw [changesIn_dropGuardIndex]
  exact hdrops

/-- The third stretch, to the end. -/
theorem IsReplayable.reaches_converged (hc : c.IsReplayable)
    (hcolumns : o.columns = c.old.columnNames ++ c.addedColumns.map (·.name))
    (hindexes : o.indexes = c.routes)
    (hkeys : o.foreignKeys = c.keptForeignKeys) (hchecks : o.checks = c.keptChecks) :
    ∃ o', o.Reaches ([Phase.dropColumn, .addForeignKey, .createView, .createRoutine,
          .dropGuardIndex, .partitionTable].flatMap c.changesIn) o' ∧
      o'.indexes.Perm c.new.indexes ∧ o'.foreignKeys.Perm c.new.foreignKeys ∧
      o'.checks.Perm c.new.checks := by
  have hold : c.old.columnNames ⊆ o.columns := by
    rw [hcolumns]
    exact List.subset_append_left _ _
  have hnew : c.new.columnNames ⊆ o.columns.filter (· ∉ c.droppedNames) := by
    intro x hx
    rw [List.mem_filter, hcolumns, decide_eq_true_iff]
    exact ⟨newColumnNames_subset hx, fun hdropped => (mem_droppedNames.mp hdropped).2 hx⟩
  obtain ⟨primaryKey, hdrop⟩ := hc.reaches_dropColumn hold hindexes
  let behindColumns : Outline :=
    { o with
      columns := o.columns.filter (· ∉ c.droppedNames)
      indexes := c.remainingIndexes
      primaryKey }
  have hadd := hc.reaches_addForeignKey (o := behindColumns) hnew hkeys hchecks
  let behindKeys : Outline :=
    (behindColumns.withForeignKeys (c.keptForeignKeys ++ c.addedForeignKeys)).withChecks
      (c.keptChecks ++ c.addedChecks)
  have hguards := hc.reaches_dropGuardIndex (o := behindKeys) rfl
  refine ⟨behindKeys.withIndexes c.lastingIndexes, ?_, hc.isRoutable.lastingIndexes_perm,
    hc.foreignKeys_perm, hc.checks_perm⟩
  have hphases : [Phase.dropColumn, .addForeignKey, .createView, .createRoutine, .dropGuardIndex,
      .partitionTable].flatMap c.changesIn
      = c.changesIn .dropColumn ++ (c.changesIn .addForeignKey ++
        ([Phase.createView, .createRoutine].flatMap c.changesIn ++
          (c.changesIn .dropGuardIndex ++ [Phase.partitionTable].flatMap c.changesIn))) := by
    simp
  rw [hphases]
  refine hdrop.append ?_
  refine hadd.append ?_
  refine (reaches_quiet _ (by decide)).append ?_
  refine hguards.append ?_
  exact reaches_quiet _ (by decide)

/-- The migration is its three stretches. -/
theorem changes_eq_stretches (c : TableComparison) : c.changes =
    [Phase.dropForeignKey, .dropRoutine, .dropView, .dropTable, .removePartitioning,
      .changeOptions, .createTable, .guardIndex, .dropIndex, .dropPrimaryKey].flatMap
        c.changesIn ++
    ([Phase.changeColumn, .addColumn, .addPrimaryKey, .addIndex].flatMap c.changesIn ++
    [Phase.dropColumn, .addForeignKey, .createView, .createRoutine, .dropGuardIndex,
      .partitionTable].flatMap c.changesIn) := by
  rw [← List.flatMap_append, ← List.flatMap_append]
  rfl

/-- The whole migration can be replayed, and converges. -/
theorem IsReplayable.replays (hc : c.IsReplayable) :
    (TableState.ofTable c.old).Replays c.changes ∧
      ((TableState.ofTable c.old).run c.changes).indexes.Perm c.new.indexes ∧
      ((TableState.ofTable c.old).run c.changes).foreignKeys.Perm c.new.foreignKeys ∧
      ((TableState.ofTable c.old).run c.changes).checks.Perm c.new.checks := by
  obtain ⟨primaryKey, hextended⟩ := hc.reaches_extended
  obtain ⟨o, hconverged, hindexes, hkeys, hchecks⟩ := hc.reaches_converged
    (o := { c.guarded with
      columns := c.old.columnNames ++ c.addedColumns.map (·.name)
      indexes := c.routes
      primaryKey }) rfl rfl rfl rfl
  have hwhole := c.changes_eq_stretches
  obtain ⟨hreplays, hend⟩ := hc.reaches_guarded.append (hextended.append hconverged)
    (TableState.ofTable c.old) (Outline.matches_ofTable c.old)
  rw [← hwhole] at hreplays hend
  rw [← hend.indexes] at hindexes
  rw [← hend.foreignKeys] at hkeys
  rw [← hend.checks] at hchecks
  exact ⟨hreplays, hindexes, hkeys, hchecks⟩

/-- Keys and constraints converge: between any two tables that were read, the server accepts every
change that the statements ask for in its turn, and at the end the indexes, foreign keys and check
constraints are those of the new table. The new table has at most one auto-increment column, foreign
keys elsewhere refer to columns that both tables have, and the names of guards are free and told
apart by their digests; a column that gets a guard of its own has a name that a key part may name it
by. -/
theorem replays_and_converges {oldText newText : Text} (hold : Table.parse oldText = .ok c.old)
    (hnew : Table.parse newText = .ok c.new)
    (hauto : (c.new.columns.filter (·.isAutoIncrement)).length ≤ 1)
    (hincoming : ∀ columns ∈ c.incoming, (∃ text, columns = namedColumns (listItems text)) ∧
      columns ⊆ c.old.columnNames ∧ columns ⊆ c.new.columnNames)
    (holdNames : c.old.HasNoGuardName) (hnewNames : c.new.HasNoGuardName)
    (hdigests : c.HasDistinctDigests) (hnamed : ∀ x ∈ c.unguardedColumns, columnName? x = some x) :
    List.Forall₂ (Statement.Alters c.name) c.statements c.changes ∧
      (TableState.ofTable c.old).Replays c.changes ∧
      ((TableState.ofTable c.old).run c.changes).indexes.Perm c.new.indexes ∧
      ((TableState.ofTable c.old).run c.changes).foreignKeys.Perm c.new.foreignKeys ∧
      ((TableState.ofTable c.old).run c.changes).checks.Perm c.new.checks := by
  have hc : c.IsReplayable := {
    old_wellFormed := Table.wellFormed_of_parse hold
    new_wellFormed := Table.wellFormed_of_parse hnew
    old_noGuardName := holdNames
    new_noGuardName := hnewNames
    incoming_listed := fun columns hcolumns => (hincoming columns hcolumns).1
    incoming_old := fun columns hcolumns => (hincoming columns hcolumns).2.1
    incoming_new := fun columns hcolumns => (hincoming columns hcolumns).2.2
    autoIncrement_once := hauto
    unguarded_named := hnamed
    distinctDigests := hdigests }
  exact ⟨c.alters_statements, hc.replays⟩

/-- The primary key of an auto-increment column gives way to an index called like the column,
and another column to one with a unique index. -/
def adopting : TableComparison where
  old := {
    name := "t"
    columns := [⟨"id", "int AUTO_INCREMENT", 0⟩, ⟨"b", "int", 1⟩]
    indexes := []
    primaryKey := some ⟨["id"], []⟩
    foreignKeys := []
    checks := []
    options := []
    definition := "CREATE TABLE t (\n  id int AUTO_INCREMENT,\n  b int,\n  PRIMARY KEY (id)\n);" }
  new := {
    name := "t"
    columns := [⟨"id", "int AUTO_INCREMENT", 0⟩, ⟨"c", "int", 1⟩]
    indexes := [⟨"id", .plain, ["id"], []⟩, ⟨"c", .unique, ["c"], []⟩]
    primaryKey := none
    foreignKeys := []
    checks := []
    options := []
    definition :=
      "CREATE TABLE t (\n  id int AUTO_INCREMENT,\n  c int,\n  KEY id (id),\n" ++
      "  UNIQUE KEY c (c)\n);" }
  options := .default
  incoming := [["id"]]

/-- There the guard is adopted, and the unique index arrives with its column. -/
theorem replays_and_converges_adopting :
    adopting.changes = [.addGuard none ["id"], .dropPrimaryKey,
        .addColumn "c" "int" .uniqueKey .last, .dropColumn "b"] ∧
      (TableState.ofTable adopting.old).Replays adopting.changes ∧
      ((TableState.ofTable adopting.old).run adopting.changes).indexes.Perm
        adopting.new.indexes := by
  obtain ⟨-, hreplays, hindexes, -⟩ := replays_and_converges
    (show Table.parse adopting.old.definition = .ok adopting.old by decide +kernel)
    (show Table.parse adopting.new.definition = .ok adopting.new by decide +kernel)
    (by decide +kernel)
    (by
      intro columns hcolumns
      obtain rfl : columns = ["id".toList] := List.mem_singleton.mp hcolumns
      exact ⟨⟨"id".toList, by decide +kernel⟩, by decide +kernel, by decide +kernel⟩)
    (Table.hasNoGuardName_of_forall (by decide +kernel))
    (Table.hasNoGuardName_of_forall (by decide +kernel)) (by decide +kernel) (by decide +kernel)
  exact ⟨by decide +kernel, hreplays, hindexes⟩

/-- A column whose name is read as another column with a length. -/
def lengthNamed : Table where
  name := "t"
  columns := [⟨"a(10)", "int AUTO_INCREMENT", 0⟩]
  indexes := []
  primaryKey := none
  foreignKeys := []
  checks := []
  options := []
  definition := "CREATE TABLE t (\n  a(10) int AUTO_INCREMENT\n);"

/-- Columns one of which is called like the list of the others. -/
def listNamed : Table where
  name := "t"
  columns := [⟨"a", "int", 0⟩, ⟨"b", "int", 1⟩, ⟨"a,b", "int", 2⟩]
  indexes := []
  primaryKey := none
  foreignKeys := []
  checks := []
  options := []
  definition := "CREATE TABLE t (\n  a int,\n  b int,\n  a,b int\n);"

/-- A comparison of a table with itself. -/
def unchanged (table : Table) (incoming : List (List Text)) : TableComparison where
  old := table
  new := table
  options := .default
  incoming

/-- The names of columns matter: a guard over the first column is refused, since there is no
column of the name that its key part gives, and of two guards for lists that are written alike
the second is refused, since there is an index of its name. -/
theorem not_replays_misnamed :
    (Table.parse lengthNamed.definition = .ok lengthNamed ∧ lengthNamed.HasNoGuardName ∧
      (lengthNamed.columns.filter (·.isAutoIncrement)).length ≤ 1 ∧
      (unchanged lengthNamed []).HasDistinctDigests ∧
      ¬ (TableState.ofTable lengthNamed).Replays (unchanged lengthNamed []).changes) ∧
    Table.parse listNamed.definition = .ok listNamed ∧ listNamed.HasNoGuardName ∧
      (listNamed.columns.filter (·.isAutoIncrement)).length ≤ 1 ∧
      (∀ columns ∈ ([["a", "b"], ["a,b"]] : List (List Text)),
        columns ⊆ listNamed.columnNames) ∧
      (unchanged listNamed [["a", "b"], ["a,b"]]).HasDistinctDigests ∧
      ¬ (TableState.ofTable listNamed).Replays
        (unchanged listNamed [["a", "b"], ["a,b"]]).changes := by
  refine ⟨⟨by decide +kernel, Table.hasNoGuardName_of_forall (by decide +kernel),
    by decide +kernel, by decide +kernel, ?_⟩, by decide +kernel,
    Table.hasNoGuardName_of_forall (by decide +kernel), by decide +kernel, by decide +kernel,
    by decide +kernel, ?_⟩
  · intro hreplays
    have hguard := hreplays [] (.addGuard none ["a(10)"]) [.dropGuard "a(10)"] (by decide +kernel)
    have hcolumn : ("a".toList : Text) ∈ lengthNamed.columnNames := by
      rw [← TableState.ofTable_columnNames]
      exact hguard.2 "a".toList (by decide +kernel)
    exact absurd hcolumn (by decide +kernel)
  · intro hreplays
    have hguard := hreplays [.addGuard (some (keyGuardName ["a", "b"])) ["a", "b"]]
      (.addGuard (some (keyGuardName ["a,b"])) ["a,b"])
      [.dropGuard (keyGuardName ["a", "b"]), .dropGuard (keyGuardName ["a,b"])] (by decide +kernel)
    exact hguard.1 (by decide +kernel)

end TableComparison

end SchemaMigration
