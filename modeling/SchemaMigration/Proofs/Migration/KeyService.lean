import SchemaMigration.Proofs.Table.WellFormed
import SchemaMigration.Proofs.Migration.Execution
import SchemaMigration.Proofs.Migration.Guard
import SchemaMigration.Proofs.Migration.InlineKey
import SchemaMigration.Proofs.Migration.KeyCover

/-!
# Which keys serve columns at which moment

Wherever the changes of a table are stopped, some phase parts those that are done from those
that are not. Up to the guards every key of the old table serves its columns; from the guards
on, until they go, so do the keys that stay and the guards; and once the columns are dropped,
every key of the new table does.

## Main Definitions

* `TableComparison.IsRegular` - two well-formed tables without names of guards
* `TableComparison.Parting` - a moment of the migration of a table
* `Parting.serves_of_old`, `Parting.serves_of_survivingKeys`, `Parting.serves_of_guard`,
  `Parting.serves_of_new` - the keys that serve columns
-/

namespace SchemaMigration

namespace TableComparison

/-- Both tables are well formed, and neither has a name that is kept for guards. -/
structure IsRegular (c : TableComparison) : Prop where
  old_wellFormed : c.old.WellFormed
  new_wellFormed : c.new.WellFormed
  old_noGuardName : c.old.HasNoGuardName
  new_noGuardName : c.new.HasNoGuardName

/-- A moment of the migration of a table. -/
abbrev Parting (c : TableComparison) (p : Phase) (done rest : List TableChange) : Prop :=
  Phase.Parting TableChange.phase c.changes p done rest

variable {c : TableComparison} {p : Phase} {done rest : List TableChange}
  {columns lead : List Text}

/-- No column of the new table is dropped. -/
theorem dropColumn_notMem {d : Text} (hd : d ∈ c.new.columnNames) :
    .dropColumn d ∉ c.changes := by
  intro h
  obtain ⟨column, -, hdrops, rfl⟩ := dropColumn_mem.mp h
  simp only [dropsColumn, Bool.and_eq_true, Option.isNone_iff_eq_none] at hdrops
  exact find?_eq_none_iff.mp hdrops.2 hd

/-- Columns that a key of a table serves are columns of the table. -/
theorem mem_columnNames_of_serves {table : Table} (h : table.WellFormed)
    (hserves : (TableState.ofTable table).Serves columns) :
    ∀ x ∈ columns, x ∈ table.columnNames := by
  intro x hx
  rw [TableState.serves_iff] at hserves
  obtain ⟨-, ⟨name, index, hindex, -, hstarts⟩ | ⟨key, hkey, hstarts⟩⟩ := hserves
  · exact h.index_columns index hindex (leadingColumns_subset _ (hstarts.subset hx))
  · exact h.primaryKey_columns key hkey (leadingColumns_subset _ (hstarts.subset hx))

/-- Columns that a key of the new table serves are not dropped. -/
theorem Parting.dropColumn_notMem_of_serves (h : c.Parting p done rest) (hc : c.IsRegular)
    (hnew : (TableState.ofTable c.new).Serves columns) :
    ∀ d ∈ columns, .dropColumn d ∉ done := by
  intro d hd hdone
  exact dropColumn_notMem (mem_columnNames_of_serves hc.new_wellFormed hnew d hd)
    (h.mem_of_done hdone)

/-! ## Up to the guards -/

/-- Until the last guard is there, every key of the old table serves its columns. -/
theorem Parting.serves_of_old (h : c.Parting p done rest) (hp : p ≤ .guardIndex)
    (hold : (TableState.ofTable c.old).Serves columns) :
    ((TableState.ofTable c.old).run done).Serves columns := by
  rw [TableState.serves_iff] at hold ⊢
  obtain ⟨hne, hkey⟩ := hold
  have early : ∀ change ∈ done, change.phase ≤ .guardIndex := by
    intro change hchange
    exact (h.le_of_done change hchange).trans hp
  have late : ∀ change, .guardIndex < change.phase → change ∉ done := by
    intro change hlate hchange
    exact not_le_of_gt hlate (early change hchange)
  have hcolumn : ∀ d ∈ columns, .dropColumn d ∉ done :=
    fun d _ => late _ (show Phase.guardIndex < .dropColumn by decide)
  refine ⟨hne, ?_⟩
  rcases hkey with ⟨name, hindex⟩ | hprimary
  · refine Or.inl ⟨name, hindex.run hne ?_ ?_ hcolumn⟩
    · exact late _ (show Phase.guardIndex < .dropIndex by decide)
    · exact late _ (show Phase.guardIndex < .dropGuardIndex by decide)
  · refine Or.inr (hprimary.run hne ?_ ?_ hcolumn)
    · exact late _ (show Phase.guardIndex < .dropPrimaryKey by decide)
    · intro change hchange key hbrings
      have hadds := TableChange.addColumn_le_of_primaryKey? hbrings
      exact absurd hchange (late _ (lt_of_lt_of_le (by decide) hadds))

/-! ## While guards are there -/

/-- An index of the old table that stays is dropped neither as an index nor as a guard. -/
theorem IsRegular.not_drop_kept (hc : c.IsRegular) {index : Index}
    (hindex : index ∈ c.old.indexes) (hkeeps : c.keepsIndex index = true) :
    .dropIndex index.name ∉ c.changes ∧ .dropGuard index.name ∉ c.changes := by
  constructor
  · intro hdrop
    obtain ⟨other, hother, hgoes, hname⟩ := dropIndex_mem.mp hdrop
    rw [eq_of_key_eq hc.old_wellFormed.indexNames_nodup hother hindex hname, hkeeps] at hgoes
    cases hgoes
  · intro hdrop
    obtain ⟨guard, hguard, -, hname⟩ := dropGuard_mem.mp hdrop
    exact indexName_ne_of_mem_old hc.old_noGuardName (List.mem_filter.mp hguard).1 hindex
      hname.symm

/-- A primary key that stays is neither dropped nor replaced. -/
theorem not_replace_kept (hkeeps : c.changesPrimaryKey = false) :
    .dropPrimaryKey ∉ c.changes ∧
      ∀ change ∈ c.changes, ∀ key, change.primaryKey? ≠ some key := by
  constructor
  · intro hdrop
    rw [dropPrimaryKey_mem, hkeeps] at hdrop
    cases hdrop.1
  · rintro change hchange key hbrings
    cases change with
    | addColumn name definition inline place =>
        obtain ⟨column, -, rfl, -, rfl⟩ := addColumn_mem hchange
        have hchanges := (primaryKey?_inlineKey hbrings).1
        rw [hkeeps] at hchanges
        cases hchanges
    | addPrimaryKey other =>
        have hchanges := (addPrimaryKey_mem.mp hchange).1
        rw [hkeeps] at hchanges
        cases hchanges
    | _ => cases hbrings

/-- At any moment the keys that stay serve their columns, as long as these are there. -/
theorem Parting.serves_of_survivingKeys (h : c.Parting p done rest) (hc : c.IsRegular)
    (hne : columns ≠ []) (hlead : lead ∈ c.survivingKeys) (hstarts : columns <+: lead)
    (hstay : ∀ d ∈ columns, .dropColumn d ∉ done) :
    ((TableState.ofTable c.old).run done).Serves columns := by
  rw [TableState.serves_iff]
  refine ⟨hne, ?_⟩
  rcases List.mem_append.mp hlead with hlead | hlead
  · obtain ⟨index, hindex, rfl⟩ := List.mem_map.mp hlead
    obtain ⟨hindex, hkeeps⟩ := List.mem_filter.mp hindex
    obtain ⟨hdrop, hguard⟩ := hc.not_drop_kept hindex hkeeps
    have hold : (TableState.ofTable c.old).HasIndexOn index.name columns :=
      ⟨index, hindex, rfl, hstarts⟩
    refine Or.inl ⟨index.name, hold.run hne ?_ ?_ hstay⟩
    · exact fun hdone => hdrop (h.mem_of_done hdone)
    · exact fun hdone => hguard (h.mem_of_done hdone)
  · split at hlead
    · cases hlead
    · rename_i hkeeps
      obtain ⟨hdrop, hreplace⟩ := not_replace_kept (c := c) (by simpa using hkeeps)
      obtain ⟨key, hkey, rfl⟩ := List.mem_map.mp hlead
      have hold : (TableState.ofTable c.old).HasPrimaryKeyOn columns :=
        ⟨key, Option.mem_toList.mp hkey, hstarts⟩
      refine Or.inr (hold.run hne ?_ ?_ hstay)
      · exact fun hdone => hdrop (h.mem_of_done hdone)
      · intro change hchange other hbrings
        exact absurd hbrings (hreplace change (h.mem_of_done hchange) other)

/-- Between the first and the last phase of guards every guard serves its columns, as long as
these are there. -/
theorem Parting.serves_of_guard (h : c.Parting p done rest) (hc : c.IsRegular)
    (hadded : .guardIndex < p) (hthere : p < .dropGuardIndex) {guard : Guard}
    (hguard : guard ∈ c.guards) (hnamed : ∀ x ∈ guard.columns, columnName? x = some x)
    (hne : columns ≠ []) (hstarts : columns <+: guard.columns)
    (hstay : ∀ d ∈ columns, .dropColumn d ∉ done) :
    ((TableState.ofTable c.old).run done).Serves columns := by
  have hadd : .addGuard guard.name guard.columns ∈ done :=
    h.mem_done (addGuard_mem.mpr ⟨guard, hguard, rfl, rfl⟩) hadded
  rw [TableState.serves_iff]
  refine ⟨hne, Or.inl ⟨guard.indexName, ?_⟩⟩
  rw [← guardIndex_name]
  refine TableState.hasIndexOn_run_of_index? _ (h.pairwise_done c.pairwise_changes) hadd rfl hne
    ?_ ?_ ?_ hstay
  · rwa [guardIndex_parts hguard, leadingColumns_of_named hnamed]
  · intro _ hdrop
    obtain ⟨index, hindex, -, hname⟩ := dropIndex_mem.mp (h.mem_of_done hdrop)
    rw [guardIndex_name] at hname
    exact indexName_ne_of_mem_old hc.old_noGuardName hguard hindex hname
  · intro hdrop
    exact absurd (h.le_of_done _ hdrop) (not_le_of_gt hthere)

/-! ## Once the columns are dropped -/

/-- An index of the new table is brought by some change, unless the old table has it. -/
theorem exists_index?_eq_some (hformed : c.new.WellFormed) {index : Index}
    (hindex : index ∈ c.new.indexes) (hnew : c.old.index? index.name ≠ some index) :
    ∃ change ∈ c.changes, change.index? = some index := by
  have same : ∀ {other : Index}, other ∈ c.new.indexes → other.name = index.name →
      other = index :=
    fun hother hname => eq_of_key_eq hformed.indexNames_nodup hother hindex hname
  cases hinline : c.addsIndexInline index.name with
  | true =>
      obtain ⟨column, hcolumn, other, hbrings, hname⟩ := addsIndexInline_iff.mp hinline
      obtain rfl := same (index?_inlineKey hbrings).1 hname
      obtain ⟨place, hadd⟩ := exists_addColumn_mem hcolumn
      exact ⟨_, hadd, hbrings⟩
  | false =>
      cases hadopts : c.adoptsIndex index.name with
      | false => exact ⟨_, addIndex_mem.mpr ⟨hindex, hnew, hinline, hadopts⟩, rfl⟩
      | true =>
          -- The guard that is adopted under its name is that index.
          obtain ⟨hx, hfound, hguard⟩ := columnGuard_of_adoptsIndex hadopts
          have hmem : c.columnGuard index.name ∈ c.guards :=
            List.mem_append_left _ (List.mem_map_of_mem hx)
          refine ⟨_, addGuard_mem.mpr ⟨_, hmem, rfl, rfl⟩, ?_⟩
          rw [hguard]
          exact congrArg some (same (mem_of_find?_eq_some hfound).1 rfl)

/-- An index that is brought before indexes are dropped is a guard, and is not dropped as one of
the old indexes. -/
theorem IsRegular.not_drop_guard (hc : c.IsRegular) {change : TableChange}
    (hchange : change ∈ c.changes) {index : Index} (hbrings : change.index? = some index)
    (hearly : change.phase ≤ .dropIndex) : .dropIndex index.name ∉ c.changes := by
  intro hdrop
  obtain ⟨old, hold, -, hname⟩ := dropIndex_mem.mp hdrop
  cases change with
  | addGuard name columns =>
      obtain ⟨guard, hguard, rfl, rfl⟩ := addGuard_mem.mp hchange
      obtain rfl := Option.some.inj hbrings
      rw [guardIndex_name] at hname
      exact indexName_ne_of_mem_old hc.old_noGuardName hguard hold hname
  | addColumn => exact absurd hearly (show ¬ Phase.addColumn ≤ .dropIndex by decide)
  | addIndex => exact absurd hearly (show ¬ Phase.addIndex ≤ .dropIndex by decide)
  | _ => cases hbrings

/-- A primary key with a column that only the new table has is another one than before. -/
theorem changesPrimaryKey_of_mem (hold : c.old.WellFormed) {key : PrimaryKey}
    (hkey : c.new.primaryKey = some key) {x : Text} (hx : x ∈ namedColumns key.parts)
    (hadded : x ∉ c.old.columnNames) : c.changesPrimaryKey = true := by
  rw [changesPrimaryKey, bne_iff_ne, hkey]
  intro hsame
  exact hadded (hold.primaryKey_columns key hsame hx)

/-- A primary key of the new table is brought by some change, unless the old table has it. -/
theorem exists_primaryKey?_eq_some {key : PrimaryKey} (hkey : c.new.primaryKey = some key)
    (hchanges : c.changesPrimaryKey = true) :
    ∃ change ∈ c.changes, ∃ brought, change.primaryKey? = some brought := by
  cases hinline : c.addsPrimaryKeyInline with
  | true =>
      obtain ⟨column, hcolumn, brought, hbrings⟩ := addsPrimaryKeyInline_iff.mp hinline
      obtain ⟨place, hadd⟩ := exists_addColumn_mem hcolumn
      exact ⟨_, hadd, brought, hbrings⟩
  | false => exact ⟨_, addPrimaryKey_mem.mpr ⟨hchanges, hinline, hkey⟩, key, rfl⟩

/-- Every primary key that a change brings covers what that of the new table does. -/
theorem leadingColumns_of_primaryKey? {change : TableChange} (hchange : change ∈ c.changes)
    {brought : PrimaryKey} (hbrings : change.primaryKey? = some brought) :
    ∃ key, c.new.primaryKey = some key ∧
      leadingColumns brought.parts = leadingColumns key.parts := by
  cases change with
  | addColumn name definition inline place =>
      obtain ⟨column, -, rfl, -, rfl⟩ := addColumn_mem hchange
      obtain ⟨-, key, hkey, hleading, -⟩ := primaryKey?_inlineKey hbrings
      exact ⟨key, hkey, hleading⟩
  | addPrimaryKey other =>
      obtain rfl := Option.some.inj hbrings
      exact ⟨other, (addPrimaryKey_mem.mp hchange).2.2, rfl⟩
  | _ => cases hbrings

/-- Once the columns are dropped, an index of the new table serves its columns. -/
theorem Parting.serves_of_new_index (h : c.Parting p done rest) (hc : c.IsRegular)
    (hp : .addForeignKey ≤ p) {index : Index} (hindex : index ∈ c.new.indexes)
    (hne : columns ≠ []) (hstarts : columns <+: leadingColumns index.parts)
    (hstay : ∀ d ∈ columns, .dropColumn d ∉ done) :
    ((TableState.ofTable c.old).run done).Serves columns := by
  by_cases hold : c.old.index? index.name = some index
  · refine h.serves_of_survivingKeys hc hne (List.mem_append_left _ ?_) hstarts hstay
    refine List.mem_map_of_mem (List.mem_filter.mpr ⟨(mem_of_find?_eq_some hold).1, ?_⟩)
    simpa [keepsIndex] using hc.new_wellFormed.index?_eq_some hindex
  · obtain ⟨change, hchange, hbrings⟩ := exists_index?_eq_some hc.new_wellFormed hindex hold
    have hdone : change ∈ done := by
      refine h.mem_done hchange (lt_of_le_of_lt (TableChange.le_addIndex_of_index? hbrings) ?_)
      exact lt_of_lt_of_le (by decide) hp
    rw [TableState.serves_iff]
    refine ⟨hne, Or.inl ⟨index.name, ?_⟩⟩
    refine TableState.hasIndexOn_run_of_index? _ (h.pairwise_done c.pairwise_changes) hdone
      hbrings hne hstarts ?_ ?_ hstay
    · intro hearly hdrop
      exact hc.not_drop_guard hchange hbrings hearly (h.mem_of_done hdrop)
    · intro hdrop
      obtain ⟨guard, hguard, -, hname⟩ := dropGuard_mem.mp (h.mem_of_done hdrop)
      exact indexName_ne_of_mem_new hc.new_noGuardName hguard hindex hname.symm

/-- So does its primary key. -/
theorem Parting.serves_of_new_primaryKey (h : c.Parting p done rest) (hc : c.IsRegular)
    (hp : .addForeignKey ≤ p) {key : PrimaryKey} (hkey : c.new.primaryKey = some key)
    (hne : columns ≠ []) (hstarts : columns <+: leadingColumns key.parts)
    (hstay : ∀ d ∈ columns, .dropColumn d ∉ done) :
    ((TableState.ofTable c.old).run done).Serves columns := by
  cases hchanges : c.changesPrimaryKey with
  | false =>
      refine h.serves_of_survivingKeys hc hne (List.mem_append_right _ ?_) hstarts hstay
      have hsame : c.old.primaryKey = c.new.primaryKey := by
        simpa [changesPrimaryKey] using hchanges
      have hold : c.old.primaryKey = some key := hsame.trans hkey
      simp [hchanges, hold]
  | true =>
      obtain ⟨change, hchange, brought, hbrings⟩ := exists_primaryKey?_eq_some hkey hchanges
      have hdone : change ∈ done := by
        have hle := TableChange.le_addPrimaryKey_of_primaryKey? hbrings
        exact h.mem_done hchange (lt_of_le_of_lt hle (lt_of_lt_of_le (by decide) hp))
      rw [TableState.serves_iff]
      refine ⟨hne, Or.inr ?_⟩
      refine TableState.hasPrimaryKeyOn_run_of_primaryKey? _ (h.pairwise_done c.pairwise_changes)
        hdone hbrings hne ?_ hstay
      intro other hother found hfound
      obtain ⟨new, hnew, hleading⟩ := leadingColumns_of_primaryKey? (h.mem_of_done hother) hfound
      obtain rfl : key = new := Option.some.inj (hkey.symm.trans hnew)
      rwa [hleading]

/-- Once the columns are dropped, every key of the new table serves its columns. -/
theorem Parting.serves_of_new (h : c.Parting p done rest) (hc : c.IsRegular)
    (hp : .addForeignKey ≤ p) (hnew : (TableState.ofTable c.new).Serves columns) :
    ((TableState.ofTable c.old).run done).Serves columns := by
  have hstay := h.dropColumn_notMem_of_serves hc hnew
  rw [TableState.serves_iff] at hnew
  obtain ⟨hne, ⟨name, index, hindex, -, hstarts⟩ | ⟨key, hkey, hstarts⟩⟩ := hnew
  · exact h.serves_of_new_index hc hp hindex hne hstarts hstay
  · exact h.serves_of_new_primaryKey hc hp hkey hne hstarts hstay

/-! ## At every moment -/

/-- The columns to be served name themselves, if those that are referred to do. -/
theorem columnName?_of_mem_servedColumns
    (hincoming : ∀ columns ∈ c.incoming, ∀ x ∈ columns, columnName? x = some x) :
    ∀ columns ∈ c.servedColumns, ∀ x ∈ columns, columnName? x = some x := by
  intro columns hmem
  rcases List.mem_append.mp hmem with hmem | hmem
  · obtain ⟨key, -, rfl⟩ := List.mem_map.mp hmem
    exact fun x hx => columnName?_of_mem_namedColumns hx
  · exact hincoming columns hmem

/-- The columns of a foreign key that stays are served at every moment, if they are served in
both tables. -/
theorem Parting.serves_of_servedColumns (h : c.Parting p done rest) (hc : c.IsRegular)
    (hincoming : ∀ columns ∈ c.incoming, ∀ x ∈ columns, columnName? x = some x)
    (hmem : columns ∈ c.servedColumns) (hold : (TableState.ofTable c.old).Serves columns)
    (hnew : (TableState.ofTable c.new).Serves columns) :
    ((TableState.ofTable c.old).run done).Serves columns := by
  rcases le_or_gt p .guardIndex with hp | hadded
  · exact h.serves_of_old hp hold
  rcases lt_or_ge p .dropGuardIndex with hthere | hp
  · have hne : columns ≠ [] := hold.1
    have hstay := h.dropColumn_notMem_of_serves hc hnew
    have hnamed := columnName?_of_mem_servedColumns hincoming
    obtain ⟨lead, hlead, hstarts⟩ := exists_covers_of_mem_servedColumns hmem hne
    rcases List.mem_append.mp hlead with hlead | hlead
    · exact h.serves_of_survivingKeys hc hne hlead hstarts hstay
    · obtain ⟨guard, hguard, rfl⟩ := List.mem_map.mp hlead
      refine h.serves_of_guard hc hadded hthere hguard ?_ hne hstarts hstay
      rcases mem_guards hguard with ⟨x, -, rfl⟩ | ⟨found, hfound, -, rfl⟩
      · -- The guard of an auto-increment column covers that column, so it is the only one.
        rw [columnGuard_columns] at hstarts ⊢
        obtain ⟨first, others, rfl⟩ := List.exists_cons_of_ne_nil hne
        obtain ⟨rfl, -⟩ := List.cons_prefix_cons.mp hstarts
        simpa using hnamed _ hmem first (by simp)
      · exact hnamed found hfound
  · exact h.serves_of_new hc (le_trans (by decide) hp) hnew

end TableComparison

end SchemaMigration
