import SchemaMigration.Proofs.Migration.GuardName
import SchemaMigration.Proofs.Migration.KeyService
import SchemaMigration.Proofs.Migration.Replay

/-!
# How indexes reach the new table

An index of the new table is one that stays, or one that is there as a guard, or one that arrives
with a column, or one that is added by itself. No two indexes on these routes are called the
same, so none arrives twice, and none is mistaken for another when it is dropped. What is left
once columns and guards are dropped are the indexes of the new table.

## Main Definitions

* `TableComparison.keptIndexes`, `guardIndexes`, `inlineIndexes`, `furtherIndexes` - the routes
* `TableComparison.HasFreshGuards` - the names of guards are free
* `TableComparison.IsGuardable` - guards are over columns that key parts may name
* `TableComparison.IsRoutable` - both of these
* `TableComparison.IsReplayable` - what a migration needs in order to be replayed
* `IsRoutable.routes_nodup` - no two indexes on the routes are called the same
* `mem_routes` - every index of the new table is on a route
* `mem_new_or_of_mem_routes` - what is on a route is in the new table, or is a temporary guard
* `IsRoutable.lastingIndexes_perm` - what is left are the indexes of the new table
-/

namespace SchemaMigration

namespace TableComparison

variable (c : TableComparison)

/-- The indexes that stay. -/
def keptIndexes : List Index := c.old.indexes.filter c.keepsIndex

/-- The indexes of the guards. -/
def guardIndexes : List Index := c.guards.map fun guard => guardIndex guard.name guard.columns

/-- The indexes that arrive with columns. -/
def inlineIndexes : List Index :=
  c.addedColumns.filterMap fun column => (c.inlineKey column).index? column.name

/-- The indexes that are added by themselves. -/
def furtherIndexes : List Index :=
  c.new.indexes.filter fun index =>
    c.old.index? index.name != some index && ! c.addsIndexInline index.name &&
      ! c.adoptsIndex index.name

/-- The indexes of all routes, in the order in which they are there. -/
def routes : List Index :=
  c.keptIndexes ++ c.guardIndexes ++ c.inlineIndexes ++ c.furtherIndexes

/-- The names of the columns that are dropped. -/
def droppedNames : List Text := c.droppedColumns.map (·.name)

/-- No guard is called like an old index or another guard, and none that is dropped again is called
like an index of the new table. -/
structure HasFreshGuards : Prop where
  names_nodup : ((c.old.indexes ++ c.guardIndexes).map (·.name)).Nodup
  new_ne : ∀ guard ∈ c.temporaryGuards, ∀ index ∈ c.new.indexes, index.name ≠ guard.indexName

instance : Decidable c.HasFreshGuards :=
  decidable_of_iff (((c.old.indexes ++ c.guardIndexes).map (·.name)).Nodup ∧
      ∀ guard ∈ c.temporaryGuards, ∀ index ∈ c.new.indexes, index.name ≠ guard.indexName)
    ⟨fun ⟨hnodup, hne⟩ => ⟨hnodup, hne⟩, fun h => ⟨h.names_nodup, h.new_ne⟩⟩

/-- Two well-formed tables whose guards are over columns that a key part may name, those of foreign
keys over columns of the new table. -/
structure IsGuardable : Prop where
  old_wellFormed : c.old.WellFormed
  new_wellFormed : c.new.WellFormed
  unguarded_named : ∀ x ∈ c.unguardedColumns, columnName? x = some x
  served_named : ∀ columns ∈ c.servedColumns, ∀ x ∈ columns, columnName? x = some x
  served_new : ∀ columns ∈ c.servedColumns, columns ⊆ c.new.columnNames

/-- Two such tables between which the names of guards are free. -/
structure IsRoutable : Prop extends c.IsGuardable, c.HasFreshGuards

/-- Two regular tables whose guards can be told apart and are over columns that a key part may
name. Foreign keys elsewhere refer to columns that both tables have, and the new table numbers
its rows once at most. -/
structure IsReplayable : Prop extends c.IsRegular where
  incoming_listed : ∀ columns ∈ c.incoming, ∃ text, columns = namedColumns (listItems text)
  incoming_old : ∀ columns ∈ c.incoming, columns ⊆ c.old.columnNames
  incoming_new : ∀ columns ∈ c.incoming, columns ⊆ c.new.columnNames
  autoIncrement_once : (c.new.columns.filter (·.isAutoIncrement)).length ≤ 1
  unguarded_named : ∀ x ∈ c.unguardedColumns, columnName? x = some x
  distinctDigests : c.HasDistinctDigests

variable {c}

theorem mem_keptIndexes {index : Index} : index ∈ c.keptIndexes ↔
    index ∈ c.old.indexes ∧ c.new.index? index.name = some index := by
  simp [keptIndexes, keepsIndex]

theorem mem_inlineIndexes {index : Index} : index ∈ c.inlineIndexes ↔
    ∃ column ∈ c.addedColumns, (c.inlineKey column).index? column.name = some index :=
  List.mem_filterMap

theorem mem_furtherIndexes {index : Index} : index ∈ c.furtherIndexes ↔
    index ∈ c.new.indexes ∧ c.old.index? index.name ≠ some index ∧
      c.addsIndexInline index.name = false ∧ c.adoptsIndex index.name = false := by
  simp [furtherIndexes, and_assoc]

/-- The dropped columns are those that only the old table has. -/
theorem mem_droppedNames {x : Text} :
    x ∈ c.droppedNames ↔ x ∈ c.old.columnNames ∧ x ∉ c.new.columnNames := by
  constructor
  · intro hx
    obtain ⟨column, hcolumn, rfl⟩ := List.mem_map.mp hx
    exact dropsColumn_iff.mp (List.mem_filter.mp hcolumn).2
  · intro hx
    obtain ⟨column, hcolumn, rfl⟩ := List.mem_map.mp hx.1
    exact List.mem_map_of_mem (List.mem_filter.mpr ⟨hcolumn, dropsColumn_iff.mpr hx⟩)

/-! ## Guards -/

/-- A foreign key that stays is over columns of both tables. -/
theorem IsReplayable.servedColumns_subset (hc : c.IsReplayable) {columns : List Text}
    (h : columns ∈ c.servedColumns) :
    columns ⊆ c.old.columnNames ∧ columns ⊆ c.new.columnNames := by
  rcases List.mem_append.mp h with h | h
  · obtain ⟨key, hkey, rfl⟩ := List.mem_map.mp h
    obtain ⟨hold, hkeeps⟩ := List.mem_filter.mp hkey
    have hnew : c.new.foreignKey? key.name = some key := by simpa [keepsForeignKey] using hkeeps
    exact ⟨hc.old_wellFormed.foreignKey_columns key hold,
      hc.new_wellFormed.foreignKey_columns key (mem_of_find?_eq_some hnew).1⟩
  · exact ⟨hc.incoming_old columns h, hc.incoming_new columns h⟩

/-- The indexes of the guards are called like the guards. -/
theorem guardIndexes_map_name : c.guardIndexes.map (·.name) = c.guards.map (·.indexName) := by
  rw [guardIndexes, List.map_map]
  exact List.map_congr_left fun guard _ => guardIndex_name guard

/-- The columns of a guard are columns of the old table. -/
theorem IsReplayable.guard_columns (hc : c.IsReplayable) {guard : Guard} (h : guard ∈ c.guards) :
    guard.columns ⊆ c.old.columnNames := by
  rcases mem_guards h with ⟨x, hx, rfl⟩ | ⟨columns, hcolumns, -, rfl⟩
  · intro y hy
    obtain rfl : y = x := by simpa using hy
    exact unguardedColumns_sublist.subset hx
  · exact (hc.servedColumns_subset hcolumns).1

/-- They name themselves. -/
theorem IsGuardable.columnName?_guard (hc : c.IsGuardable) {guard : Guard} (h : guard ∈ c.guards) :
    ∀ x ∈ guard.columns, columnName? x = some x := by
  rcases mem_guards h with ⟨x, hx, rfl⟩ | ⟨columns, hcolumns, -, rfl⟩
  · intro y hy
    obtain rfl : y = x := by simpa using hy
    exact hc.unguarded_named y hx
  · exact hc.served_named columns hcolumns

/-- The index of a guard names the columns of the guard. -/
theorem IsGuardable.namedColumns_guardIndex (hc : c.IsGuardable) {guard : Guard}
    (h : guard ∈ c.guards) :
    namedColumns (guardIndex guard.name guard.columns).parts = guard.columns := by
  rw [guardIndex_parts h]
  exact namedColumns_of_named (hc.columnName?_guard h)

/-- A guard of whose columns one is dropped is over just that column. -/
theorem IsGuardable.columns_of_dropped (hc : c.IsGuardable) {guard : Guard}
    (h : guard ∈ c.guards) {d : Text} (hd : d ∈ guard.columns) (hdropped : d ∈ c.droppedNames) :
    guard.columns = [d] := by
  rcases mem_guards h with ⟨x, -, rfl⟩ | ⟨columns, hcolumns, -, rfl⟩
  · obtain rfl : d = x := by simpa using hd
    exact columnGuard_columns d
  · exact absurd (hc.served_new columns hcolumns hd) (mem_droppedNames.mp hdropped).2

/-- A guard is lost just if one of its columns is dropped. -/
theorem losesGuard_iff {guard : Guard} :
    c.losesGuard guard = true ↔ ∃ d ∈ guard.columns, d ∈ c.droppedNames := by
  simp only [losesGuard, List.any_eq_true, dropsColumn_iff, mem_droppedNames]

/-- A guard that is adopted is an index of the new table, over one of the old columns and called
like it. -/
theorem mem_temporaryGuards_or {guard : Guard} (h : guard ∈ c.guards) :
    guard ∈ c.temporaryGuards ∨ ∃ x ∈ c.old.columnNames, c.adoptsIndex x = true ∧
      guardIndex guard.name guard.columns
        = { name := x, kind := .plain, parts := [x], options := [] } ∧
      guardIndex guard.name guard.columns ∈ c.new.indexes := by
  -- A guard is kept only if it is called like its column and an index of that name is adopted.
  cases hstays : guard.name.isNone && c.adoptsIndex (guard.columns.headD []) with
  | true =>
    refine Or.inr ?_
    rw [Bool.and_eq_true] at hstays
    obtain ⟨hname, hadopts⟩ := hstays
    rcases mem_guards h with ⟨x, hx, rfl⟩ | ⟨columns, -, -, rfl⟩
    · rw [columnGuard_columns, List.headD_cons] at hadopts
      obtain ⟨-, hnew, hguard⟩ := columnGuard_of_adoptsIndex hadopts
      refine ⟨x, unguardedColumns_sublist.subset hx, hadopts, ?_⟩
      rw [hguard]
      exact ⟨rfl, (mem_of_find?_eq_some hnew).1⟩
    · cases hname
  | false => exact Or.inl (List.mem_filter.mpr ⟨h, by rw [hstays]; rfl⟩)

/-- An index of the new table that is called like a guard is adopted. -/
theorem IsRoutable.adopts_of_indexName_eq (hc : c.IsRoutable) {guard : Guard}
    (h : guard ∈ c.guards) {index : Index} (hindex : index ∈ c.new.indexes)
    (hname : index.name = guard.indexName) :
    c.adoptsIndex index.name = true ∧ index.name ∈ c.old.columnNames ∧
      index = { name := index.name, kind := .plain, parts := [index.name], options := [] } := by
  rcases mem_temporaryGuards_or h with htemporary | ⟨x, hx, hadopts, hplain, hnew⟩
  · exact absurd hname (hc.new_ne guard htemporary index hindex)
  · rw [← guardIndex_name] at hname
    have hsame := eq_of_key_eq hc.new_wellFormed.indexNames_nodup hindex hnew hname
    rw [hplain] at hsame
    subst hsame
    exact ⟨hadopts, hx, rfl⟩

/-! ## Distinct names -/

/-- Only one column of the new table numbers its rows. -/
theorem IsReplayable.eq_of_isAutoIncrement (hc : c.IsReplayable) {column column' : Column}
    (hcolumn : column ∈ c.new.columns) (hcolumn' : column' ∈ c.new.columns)
    (hauto : column.isAutoIncrement = true) (hauto' : column'.isAutoIncrement = true) :
    column = column' :=
  eq_of_length_le_one hc.autoIncrement_once (List.mem_filter.mpr ⟨hcolumn, hauto⟩)
    (List.mem_filter.mpr ⟨hcolumn', hauto'⟩)

/-- A column that leads a key over just a name that names itself has that name. -/
theorem eq_of_leadingColumns_single {name x : Text} (hname : NamesItself name)
    (h : (leadingColumns [name]).head? = some x) : x = name := by
  refine hname x ?_
  cases hpart : columnName? name with
  | none => simp [leadingColumns, hpart] at h
  | some y => simpa [leadingColumns, hpart] using h

/-- Two columns that bring indexes of one name are the same. -/
theorem eq_of_inline_name_eq (hnew : c.new.WellFormed) {column column' : Column}
    (hcolumn : column ∈ c.addedColumns) (hcolumn' : column' ∈ c.addedColumns)
    {index index' : Index} (hbrings : (c.inlineKey column).index? column.name = some index)
    (hbrings' : (c.inlineKey column').index? column'.name = some index')
    (hname : index.name = index'.name) : column = column' := by
  obtain ⟨hindex, -, hmay⟩ := index?_inlineKey hbrings
  obtain ⟨hindex', -, hmay'⟩ := index?_inlineKey hbrings'
  have hsame := eq_of_key_eq hnew.indexNames_nodup hindex hindex' hname
  have hitself := hnew.index_namesItself index hindex
  have heq : column.name = column'.name → column = column' :=
    fun h => eq_of_key_eq hnew.columnNames_nodup (mem_addedColumns.mp hcolumn).1
      (mem_addedColumns.mp hcolumn').1 h
  rcases hmay with ⟨-, hleads⟩ | ⟨-, hsingle⟩ <;> rcases hmay' with ⟨-, hleads'⟩ | ⟨-, hsingle'⟩
  · rw [hsame, hleads'] at hleads
    exact heq (Option.some.inj hleads).symm
  · rw [hsame, hsingle'] at hleads hitself
    exact heq (eq_of_leadingColumns_single hitself hleads)
  · rw [← hsame, hsingle] at hleads'
    rw [hsingle] at hitself
    exact heq (eq_of_leadingColumns_single hitself hleads').symm
  · rw [hsingle, hsingle'] at hname
    exact heq hname

/-- The added columns have distinct names. -/
theorem addedNames_nodup (hnew : c.new.WellFormed) : (c.addedColumns.map (·.name)).Nodup := by
  have hperm : c.addedColumns.Perm
      (c.new.columns.filter fun column => (c.old.column? column.name).isNone) :=
    List.perm_append_comm.trans (List.filter_append_perm _ _)
  rw [(hperm.map _).nodup_iff]
  exact nodup_filter _ hnew.columnNames_nodup

/-- So have the old columns and those that are added. -/
theorem oldNames_addedNames_nodup (hold : c.old.WellFormed) (hnew : c.new.WellFormed) :
    (c.old.columnNames ++ c.addedColumns.map (·.name)).Nodup := by
  rw [List.nodup_append]
  refine ⟨hold.columnNames_nodup, addedNames_nodup hnew, ?_⟩
  rintro x hx y hy rfl
  obtain ⟨column, hcolumn, rfl⟩ := List.mem_map.mp hy
  exact find?_eq_none_iff.mp (mem_addedColumns.mp hcolumn).2 hx

theorem inlineNames_nodup (hnew : c.new.WellFormed) :
    (c.inlineIndexes.map (·.name)).Nodup := by
  have hcolumns : c.addedColumns.Nodup := (addedNames_nodup hnew).of_map _
  rw [inlineIndexes, List.Nodup, List.pairwise_map, List.pairwise_filterMap]
  refine hcolumns.imp_of_mem ?_
  intro column column' hcolumn hcolumn' hne index hindex index' hindex' hname
  exact hne (eq_of_inline_name_eq hnew hcolumn hcolumn' hindex hindex' hname)

/-- No guard is called like an index that arrives with a column. -/
theorem IsRoutable.inlineName_ne_guard (hc : c.IsRoutable) {guard : Guard}
    (hguard : guard ∈ c.guards) {index : Index} (hindex : index ∈ c.inlineIndexes) :
    index.name ≠ guard.indexName := by
  intro hname
  obtain ⟨column, hcolumn, hbrings⟩ := mem_inlineIndexes.mp hindex
  obtain ⟨hnew, -, hmay⟩ := index?_inlineKey hbrings
  -- An adopted guard is called like an old column, while an index that arrives with a column leads
  -- with that new one.
  obtain ⟨-, hold, hplain⟩ := hc.adopts_of_indexName_eq hguard hnew hname
  rcases hmay with ⟨-, hleads⟩ | ⟨-, hsingle⟩
  · rw [hplain] at hleads
    have hitself := hc.new_wellFormed.index_namesItself index hnew
    have hsame : column.name = index.name := eq_of_leadingColumns_single hitself hleads
    rw [← hsame] at hold
    exact find?_eq_none_iff.mp (mem_addedColumns.mp hcolumn).2 hold
  · rw [hsingle] at hplain
    cases congrArg Index.kind hplain

/-- Tables that use no names of guards leave these free. -/
theorem IsReplayable.hasFreshGuards (hc : c.IsReplayable) : c.HasFreshGuards where
  names_nodup := by
    refine nodup_map_append.mpr ⟨hc.old_wellFormed.indexNames_nodup, ?_, ?_⟩
    · rw [guardIndexes_map_name]
      exact guardNames_nodup hc.distinctDigests hc.old_wellFormed hc.old_noGuardName
        hc.incoming_listed
    · intro index hindex other hother
      obtain ⟨guard, hguard, rfl⟩ := List.mem_map.mp hother
      rw [guardIndex_name]
      exact indexName_ne_of_mem_old hc.old_noGuardName hguard hindex
  new_ne := fun _ hguard _ hindex => indexName_ne_of_mem_new hc.new_noGuardName hguard hindex

theorem IsReplayable.isRoutable (hc : c.IsReplayable) : c.IsRoutable where
  toIsGuardable := {
    old_wellFormed := hc.old_wellFormed
    new_wellFormed := hc.new_wellFormed
    unguarded_named := hc.unguarded_named
    served_named := by
      intro columns hcolumns x hx
      obtain ⟨text, rfl⟩ :=
        exists_listItems_of_mem_servedColumns hc.old_wellFormed hc.incoming_listed hcolumns
      exact columnName?_of_mem_namedColumns hx
    served_new := fun _ hcolumns => (hc.servedColumns_subset hcolumns).2 }
  toHasFreshGuards := hc.hasFreshGuards

/-- No two indexes are called the same once old ones are dropped. -/
theorem guardedNames_nodup (hnames : ((c.old.indexes ++ c.guardIndexes).map (·.name)).Nodup) :
    ((c.keptIndexes ++ c.guardIndexes).map (·.name)).Nodup := by
  have hkept : (c.keptIndexes ++ c.guardIndexes).Sublist (c.old.indexes ++ c.guardIndexes) :=
    List.filter_sublist.append (List.Sublist.refl _)
  exact hnames.sublist (hkept.map _)

/-- What is left of the old indexes and the guards when indexes are dropped. -/
theorem filter_dropped (hnames : ((c.old.indexes ++ c.guardIndexes).map (·.name)).Nodup) :
    (c.old.indexes ++ c.guardIndexes).filter (fun index =>
        index.name ∉ (c.old.indexes.filter (! c.keepsIndex ·)).map (·.name))
      = c.keptIndexes ++ c.guardIndexes := by
  obtain ⟨hold, -, hne⟩ := nodup_map_append.mp hnames
  have hguards : c.guardIndexes.filter (fun index =>
      index.name ∉ (c.old.indexes.filter (! c.keepsIndex ·)).map (·.name)) = c.guardIndexes := by
    rw [List.filter_eq_self]
    intro index hindex
    rw [decide_eq_true_iff]
    intro hin
    obtain ⟨old, hmem, hname⟩ := List.mem_map.mp hin
    exact hne old (List.mem_filter.mp hmem).1 index hindex hname
  rw [List.filter_append, filter_notMem_map hold, hguards]
  rfl

/-- Nor are those that are there once columns are added. -/
theorem IsRoutable.extendedIndexes_nodup (hc : c.IsRoutable) :
    ((c.keptIndexes ++ c.guardIndexes ++ c.inlineIndexes).map (·.name)).Nodup := by
  refine nodup_map_append.mpr
    ⟨guardedNames_nodup hc.names_nodup, inlineNames_nodup hc.new_wellFormed, ?_⟩
  intro index hindex inline hinline hname
  rcases List.mem_append.mp hindex with hindex | hindex
  · obtain ⟨column, -, hbrings⟩ := mem_inlineIndexes.mp hinline
    have hold := (index?_inlineKey hbrings).2.1
    rw [← hname] at hold
    exact find?_eq_none_iff.mp hold (List.mem_map_of_mem (mem_keptIndexes.mp hindex).1)
  · obtain ⟨guard, hguard, rfl⟩ := List.mem_map.mp hindex
    rw [guardIndex_name] at hname
    exact hc.inlineName_ne_guard hguard hinline hname.symm

/-- No two indexes on the routes are called the same. -/
theorem IsRoutable.routes_nodup (hc : c.IsRoutable) : (c.routes.map (·.name)).Nodup := by
  refine nodup_map_append.mpr
    ⟨hc.extendedIndexes_nodup, nodup_filter _ hc.new_wellFormed.indexNames_nodup, ?_⟩
  intro index hindex further hfurther hname
  obtain ⟨hnew, hold, hinline, hadopts⟩ := mem_furtherIndexes.mp hfurther
  rcases List.mem_append.mp hindex with hindex | hindex
  · rcases List.mem_append.mp hindex with hindex | hindex
    · obtain ⟨hindex, hkeeps⟩ := mem_keptIndexes.mp hindex
      obtain rfl := eq_of_key_eq hc.new_wellFormed.indexNames_nodup
        (mem_of_find?_eq_some hkeeps).1 hnew hname
      exact hold (hc.old_wellFormed.index?_eq_some hindex)
    · obtain ⟨guard, hguard, rfl⟩ := List.mem_map.mp hindex
      rw [guardIndex_name] at hname
      rw [(hc.adopts_of_indexName_eq hguard hnew hname.symm).1] at hadopts
      cases hadopts
  · obtain ⟨column, hcolumn, hbrings⟩ := mem_inlineIndexes.mp hindex
    rw [addsIndexInline_iff.mpr ⟨column, hcolumn, index, hbrings, hname⟩] at hinline
    cases hinline

/-- If old indexes and guards have distinct names, and so have the indexes on the routes, the names
of guards are free: a new index that is called like a guard would arrive a second time. -/
theorem hasFreshGuards_of_nodup (hnames : ((c.old.indexes ++ c.guardIndexes).map (·.name)).Nodup)
    (hroutes : (c.routes.map (·.name)).Nodup) : c.HasFreshGuards where
  names_nodup := hnames
  new_ne := by
    intro guard htemporary index hindex hname
    obtain ⟨hguard, hkept⟩ := List.mem_filter.mp htemporary
    have hmem : guardIndex guard.name guard.columns ∈ c.guardIndexes := List.mem_map_of_mem hguard
    rw [← guardIndex_name] at hname
    obtain ⟨hextended, -, hfurther⟩ := nodup_map_append.mp hroutes
    obtain ⟨-, -, hinlines⟩ := nodup_map_append.mp hextended
    cases hinline : c.addsIndexInline index.name with
    | true =>
      obtain ⟨column, hcolumn, other, hbrings, hother⟩ := addsIndexInline_iff.mp hinline
      exact hinlines _ (List.mem_append_right _ hmem) other
        (mem_inlineIndexes.mpr ⟨column, hcolumn, hbrings⟩) (hname.symm.trans hother.symm)
    | false =>
      cases hadopts : c.adoptsIndex index.name with
      | false =>
        have hold : c.old.index? index.name ≠ some index := by
          intro hfound
          exact (nodup_map_append.mp hnames).2.2 index (mem_of_find?_eq_some hfound).1 _ hmem hname
        exact hfurther _ (List.mem_append_left _ (List.mem_append_right _ hmem)) index
          (mem_furtherIndexes.mpr ⟨hindex, hold, hinline, hadopts⟩) hname.symm
      | true =>
        -- The guard that is adopted is this one, so it is not temporary.
        obtain ⟨hx, -, hadopted⟩ := columnGuard_of_adoptsIndex hadopts
        have hother : c.columnGuard index.name ∈ c.guards :=
          List.mem_append_left _ (List.mem_map_of_mem hx)
        have hguards := (nodup_map_append.mp hnames).2.1
        rw [guardIndexes_map_name] at hguards
        have hotherName : (c.columnGuard index.name).indexName = index.name := by
          rw [hadopted]
          rfl
        rw [guardIndex_name] at hname
        obtain rfl := eq_of_key_eq hguards hother hguard (hotherName.trans hname)
        rw [hadopted, List.headD_cons, hadopts] at hkept
        cases hkept

/-! ## The indexes of the new table -/

/-- Every index of the new table is on a route. -/
theorem mem_routes (hformed : c.new.WellFormed) {index : Index} (hindex : index ∈ c.new.indexes) :
    index ∈ c.routes := by
  simp only [routes, List.mem_append]
  by_cases hold : c.old.index? index.name = some index
  · have hkept : index ∈ c.keptIndexes := mem_keptIndexes.mpr
      ⟨(mem_of_find?_eq_some hold).1, hformed.index?_eq_some hindex⟩
    exact Or.inl (Or.inl (Or.inl hkept))
  · obtain ⟨change, hchange, hbrings⟩ := exists_index?_eq_some hformed hindex hold
    cases change with
    | addGuard name columns =>
        obtain ⟨guard, hguard, rfl, rfl⟩ := addGuard_mem.mp hchange
        obtain rfl := Option.some.inj hbrings
        exact Or.inl (Or.inl (Or.inr (List.mem_map_of_mem hguard)))
    | addColumn name definition key place =>
        obtain ⟨column, hcolumn, rfl, -, rfl⟩ := addColumn_mem hchange
        exact Or.inl (Or.inr (mem_inlineIndexes.mpr ⟨column, hcolumn, hbrings⟩))
    | addIndex other =>
        obtain rfl := Option.some.inj hbrings
        exact Or.inr (mem_furtherIndexes.mpr (addIndex_mem.mp hchange))
    | _ => cases hbrings

/-- An index on a route is one of the new table, or that of a temporary guard. -/
theorem mem_new_or_of_mem_routes {index : Index} (h : index ∈ c.routes) :
    index ∈ c.new.indexes ∨
      ∃ guard ∈ c.temporaryGuards, index = guardIndex guard.name guard.columns := by
  simp only [routes, List.mem_append] at h
  rcases h with ((h | h) | h) | h
  · exact Or.inl (mem_of_find?_eq_some (mem_keptIndexes.mp h).2).1
  · obtain ⟨guard, hguard, rfl⟩ := List.mem_map.mp h
    rcases mem_temporaryGuards_or hguard with htemporary | ⟨-, -, -, -, hnew⟩
    · exact Or.inr ⟨guard, htemporary, rfl⟩
    · exact Or.inl hnew
  · obtain ⟨column, -, hbrings⟩ := mem_inlineIndexes.mp h
    exact Or.inl (index?_inlineKey hbrings).1
  · exact Or.inl (mem_furtherIndexes.mp h).1

/-! ## What is left -/

/-- No index of the new table is over a dropped column. -/
theorem droppedNames_notMem (hformed : c.new.WellFormed) {index : Index}
    (hindex : index ∈ c.new.indexes) : ∀ d ∈ c.droppedNames, d ∉ namedColumns index.parts := by
  intro d hd hin
  exact (mem_droppedNames.mp hd).2 (hformed.index_columns index hindex hin)

/-- An index that is there before columns are dropped is over none of them, or the guard of one. -/
theorem IsGuardable.staysOrGoes_of_mem_routes (hc : c.IsGuardable) {index : Index}
    (hindex : index ∈ c.routes) : Outline.StaysOrGoes c.droppedNames index := by
  rcases mem_new_or_of_mem_routes hindex with hnew | ⟨guard, hguard, rfl⟩
  · exact Or.inl (droppedNames_notMem hc.new_wellFormed hnew)
  · have hguard := (List.mem_filter.mp hguard).1
    rw [Outline.StaysOrGoes, hc.namedColumns_guardIndex hguard, guardIndex_parts hguard]
    by_cases hlost : ∃ d ∈ guard.columns, d ∈ c.droppedNames
    · obtain ⟨d, hd, hdropped⟩ := hlost
      exact Or.inr ⟨d, hdropped, hc.columns_of_dropped hguard hd hdropped,
        hc.columnName?_guard hguard d hd⟩
    · refine Or.inl ?_
      intro d hdropped hd
      exact hlost ⟨d, hd, hdropped⟩

/-- The indexes that are left when the columns are dropped. -/
def remainingIndexes (c : TableComparison) : List Index :=
  c.routes.filter fun index => ∀ d ∈ c.droppedNames, d ∉ namedColumns index.parts

/-- The names of the guards that are dropped at the end. -/
def droppedGuardNames (c : TableComparison) : List Text :=
  (c.temporaryGuards.filter fun guard => ! c.losesGuard guard).map (·.indexName)

/-- A guard that is dropped at the end is a temporary one that is not lost. -/
theorem mem_droppedGuardNames {name : Text} : name ∈ c.droppedGuardNames ↔
    ∃ guard ∈ c.temporaryGuards, c.losesGuard guard = false ∧ guard.indexName = name := by
  simp [droppedGuardNames, and_assoc]

/-- The indexes that are left at the end. -/
def lastingIndexes (c : TableComparison) : List Index :=
  c.remainingIndexes.filter (·.name ∉ c.droppedGuardNames)

/-- No two guards that are dropped at the end are called the same. -/
theorem HasFreshGuards.droppedGuardNames_nodup (hfresh : c.HasFreshGuards) :
    c.droppedGuardNames.Nodup := by
  have hnodup := (nodup_map_append.mp hfresh.names_nodup).2.1
  rw [guardIndexes_map_name] at hnodup
  exact nodup_filter _ (nodup_filter _ hnodup)

/-- They are still there when the columns are dropped. -/
theorem IsGuardable.droppedGuardNames_subset (hc : c.IsGuardable) :
    c.droppedGuardNames ⊆ c.remainingIndexes.map (·.name) := by
  intro name hname
  obtain ⟨guard, htemporary, hlost, rfl⟩ := mem_droppedGuardNames.mp hname
  have hguard := (List.mem_filter.mp htemporary).1
  have hroute : guardIndex guard.name guard.columns ∈ c.guardIndexes :=
    List.mem_map_of_mem hguard
  rw [← guardIndex_name]
  refine List.mem_map_of_mem (List.mem_filter.mpr ⟨by simp [routes, hroute], ?_⟩)
  rw [decide_eq_true_iff, hc.namedColumns_guardIndex hguard]
  intro d hdropped hd
  rw [losesGuard_iff.mpr ⟨d, hd, hdropped⟩] at hlost
  cases hlost

/-- What is left at the end are the indexes of the new table. -/
theorem IsRoutable.lastingIndexes_perm (hc : c.IsRoutable) :
    c.lastingIndexes.Perm c.new.indexes := by
  have hroutes : c.routes.Nodup := hc.routes_nodup.of_map
  -- Neither list repeats an index, so that they have the same members is enough.
  rw [lastingIndexes, remainingIndexes, List.perm_ext_iff_of_nodup ((hroutes.filter _).filter _)
    hc.new_wellFormed.indexNames_nodup.of_map]
  intro index
  rw [List.mem_filter, List.mem_filter, decide_eq_true_iff, decide_eq_true_iff]
  constructor
  · rintro ⟨⟨hroute, hstays⟩, hname⟩
    rcases mem_new_or_of_mem_routes hroute with hnew | ⟨guard, htemporary, rfl⟩
    · exact hnew
    · have hguard := (List.mem_filter.mp htemporary).1
      rw [hc.namedColumns_guardIndex hguard] at hstays
      rw [guardIndex_name] at hname
      refine absurd (mem_droppedGuardNames.mpr ⟨guard, htemporary, ?_, rfl⟩) hname
      rw [Bool.eq_false_iff, Ne, losesGuard_iff]
      rintro ⟨d, hd, hdropped⟩
      exact hstays d hdropped hd
  · intro hnew
    refine ⟨⟨mem_routes hc.new_wellFormed hnew, droppedNames_notMem hc.new_wellFormed hnew⟩, ?_⟩
    intro hname
    obtain ⟨guard, htemporary, -, hsame⟩ := mem_droppedGuardNames.mp hname
    exact hc.new_ne guard htemporary index hnew hsame.symm

end TableComparison

end SchemaMigration
