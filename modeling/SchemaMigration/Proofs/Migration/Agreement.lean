import SchemaMigration.Proofs.Migration.SchemaChanges

/-!
# Schemas that agree

Schemas agree if they have the same objects with the same parts, in whatever order these are
defined. Nothing is to be done between such schemas, but the search for guards does not ask
whether anything is going to change: it adds a guard for every column that is to have a key and
has none, and drops it again.

## Main Definitions

* `Table.Agrees`, `Schema.Agrees` - the same parts under the same names
* `Schema.IsIndexed` - every key that the server insists on is there
* `TableComparison.guards_eq_nil_iff` - when a comparison needs no guards
* `TableComparison.steps_of_agrees` - tables that agree only get guards
* `SchemaComparison.foundSteps_of_agrees` - and nothing but tables gets any
* `statements_eq_nil_iff_of_agrees` - when the comparison of schemas that agree is empty
-/

namespace SchemaMigration

/-- Two tables have the same columns, keys and constraints under the same names, and the same
options. Columns are the same if their definitions are. -/
structure Table.Agrees (old new : Table) : Prop where
  columns : ∀ name,
    (old.column? name).map (·.definition) = (new.column? name).map (·.definition)
  primaryKey : old.primaryKey = new.primaryKey
  indexes : ∀ name, old.index? name = new.index? name
  foreignKeys : ∀ name, old.foreignKey? name = new.foreignKey? name
  checks : ∀ name, old.check? name = new.check? name
  baseOptions : old.baseOptions = new.baseOptions
  partitioning : old.partitioning = new.partitioning

theorem Table.Agrees.refl (table : Table) : table.Agrees table := by
  constructor <;> simp

/-- Two schemas have tables, views and routines of the same names. Tables of one name agree, and
views and routines have the same signatures. -/
structure Schema.Agrees (old new : Schema) : Prop where
  tableNames : ∀ name, (old.table? name).isSome = (new.table? name).isSome
  tables : ∀ name, ∀ table ∈ old.table? name, ∀ other ∈ new.table? name, table.Agrees other
  views : ∀ name, (old.view? name).map (·.signature) = (new.view? name).map (·.signature)
  routines : ∀ key, (old.routine? key).map (·.signature) = (new.routine? key).map (·.signature)

theorem Schema.Agrees.refl (schema : Schema) : schema.Agrees schema where
  tableNames _ := rfl
  tables := by
    intro name table htable other hother
    obtain rfl : table = other := Option.some.inj (htable.symm.trans hother)
    exact Table.Agrees.refl table
  views _ := rfl
  routines _ := rfl

/-- In every table that is looked at, columns that number the rows lead keys, and keys start with
the columns of every foreign key, in its own table and in the one that it refers to. -/
structure Schema.IsIndexed (schema : Schema) (options : Options) : Prop where
  autoIncrement : ∀ table ∈ schema.tables, options.selects table.name = true →
    (TableState.ofTable table).IndexesAutoIncrement
  foreignKeys : ∀ table ∈ schema.tables, options.selects table.name = true →
    ∀ key ∈ table.foreignKeys, namedColumns key.parts ≠ [] →
      (TableState.ofTable table).Serves (namedColumns key.parts)
  references : ∀ table ∈ schema.tables, options.selects table.name = true →
    ∀ child ∈ schema.tables, ∀ key ∈ child.foreignKeys, key.refTable = table.name →
      namedColumns key.refParts ≠ [] → (TableState.ofTable table).Serves (namedColumns key.refParts)

namespace TableComparison

variable {c : TableComparison}

/-! ## When there are no guards -/

/-- No guard is needed for foreign keys just if all their columns are covered. -/
theorem keyGuardsFor_eq_nil_iff {covered served : List (List Text)} :
    keyGuardsFor covered served = [] ↔
      ∀ columns ∈ served, columns ≠ [] → ∃ lead ∈ covered, columns <+: lead := by
  induction served with
  | nil => simp [keyGuardsFor]
  | cons columns rest ih =>
      rw [List.forall_mem_cons, keyGuardsFor]
      split
      · rename_i hcovered
        rw [ih, iff_and_self]
        intro _ hne
        rw [Bool.or_eq_true, List.isEmpty_iff, List.any_eq_true] at hcovered
        obtain ⟨lead, hlead, hstarts⟩ := hcovered.resolve_left hne
        exact ⟨lead, hlead, List.isPrefixOf_iff_prefix.mp hstarts⟩
      · rename_i hopen
        -- These columns get a guard, and nothing that stays covers them.
        refine iff_of_false (by simp) ?_
        rintro ⟨hfirst, -⟩
        simp only [Bool.or_eq_true, List.isEmpty_iff, List.any_eq_true, not_or] at hopen
        obtain ⟨hne, hopen⟩ := hopen
        obtain ⟨lead, hlead, hstarts⟩ := hfirst hne
        exact hopen ⟨lead, hlead, List.isPrefixOf_iff_prefix.mpr hstarts⟩

/-- A comparison needs no guards just if keys that stay cover what they are for. -/
theorem guards_eq_nil_iff : c.guards = [] ↔ c.unguardedColumns = [] ∧
    ∀ columns ∈ c.servedColumns, columns ≠ [] → ∃ lead ∈ c.survivingKeys, columns <+: lead := by
  rw [guards, List.append_eq_nil_iff, columnGuards, List.map_eq_nil_iff, keyGuards,
    keyGuardsFor_eq_nil_iff, and_congr_right_iff]
  intro hnone
  rw [columnGuards, hnone]
  simp

/-! ## When nothing is found -/

/-- No foreign key is dropped and none is added just if both tables have the same. -/
theorem foreignKeySteps_eq_nil_iff (hold : c.old.WellFormed) (hnew : c.new.WellFormed) :
    c.foreignKeyDrops = [] ∧ c.foreignKeyAdditions = [] ↔
      ∀ name, c.old.foreignKey? name = c.new.foreignKey? name := by
  rw [foreignKeyDrops, foreignKeyAdditions, List.map_eq_nil_iff, List.map_eq_nil_iff]
  refine filters_eq_nil_iff hold.foreignKeyNames_nodup hnew.foreignKeyNames_nodup ?_ ?_
  · simp [keepsForeignKey, Table.foreignKey?]
  · simp [Table.foreignKey?]

/-- So it is with check constraints. -/
theorem checkSteps_eq_nil_iff (hold : c.old.WellFormed) (hnew : c.new.WellFormed) :
    c.checkDrops = [] ∧ c.checkAdditions = [] ↔
      ∀ name, c.old.check? name = c.new.check? name := by
  rw [checkDrops, checkAdditions, List.map_eq_nil_iff, List.map_eq_nil_iff]
  refine filters_eq_nil_iff hold.checkNames_nodup hnew.checkNames_nodup ?_ ?_
  · simp [keepsCheck, Table.check?]
  · simp [Table.check?]

/-- So it is with the partitioning. -/
theorem partitioningSteps_eq_nil_iff :
    c.partitioningSteps = [] ↔ c.old.partitioning = c.new.partitioning := by
  rw [partitioningSteps]
  split
  · rename_i hsame
    exact iff_of_true rfl hsame
  · -- Partitioning that is there is removed, and one that is wanted is set.
    rename_i hdiffers
    refine iff_of_false ?_ hdiffers
    rw [List.append_eq_nil_iff]
    rintro ⟨hremoved, hset⟩
    split at hremoved
    · rename_i hold
      split at hset
      · rename_i hnew
        rw [List.isEmpty_iff.mp hold, List.isEmpty_iff.mp hnew] at hdiffers
        exact hdiffers rfl
      · cases hset
    · cases hremoved

/-! ## Tables that agree -/

section Agrees

variable (hagrees : c.old.Agrees c.new) (hold : c.old.WellFormed)
include hagrees

/-- The primary key stays. -/
theorem changesPrimaryKey_of_agrees : c.changesPrimaryKey = false := by
  rw [changesPrimaryKey, hagrees.primaryKey, bne_self_eq_false]

/-- So do the options and the partitioning. -/
theorem wholeTable_of_agrees : c.optionSteps = [] ∧ c.partitioningSteps = [] ∧
    c.primaryKeyDrops = [] ∧ c.primaryKeyAdditions = [] := by
  refine ⟨?_, ?_, ?_, ?_⟩
  · rw [optionSteps, changesOptions, hagrees.baseOptions, bne_self_eq_false]
    rfl
  · exact partitioningSteps_eq_nil_iff.mpr hagrees.partitioning
  · rw [primaryKeyDrops, changesPrimaryKey_of_agrees hagrees]
    rfl
  · rw [primaryKeyAdditions, changesPrimaryKey_of_agrees hagrees]
    rfl

include hold

/-- All indexes stay. -/
theorem keepsIndex_of_agrees {index : Index} (h : index ∈ c.old.indexes) :
    c.keepsIndex index = true := by
  rw [keepsIndex, ← hagrees.indexes, hold.index?_eq_some h]
  exact beq_self_eq_true _

/-- All foreign keys stay. -/
theorem keepsForeignKey_of_agrees {key : ForeignKey} (h : key ∈ c.old.foreignKeys) :
    c.keepsForeignKey key = true := by
  rw [keepsForeignKey, ← hagrees.foreignKeys, hold.foreignKey?_eq_some h]
  exact beq_self_eq_true _

/-- All columns stay, with their definitions. -/
theorem exists_column?_of_agrees {column : Column} (h : column ∈ c.old.columns) :
    ∃ new, c.new.column? column.name = some new ∧ new.definition = column.definition := by
  have hfound := hagrees.columns column.name
  rw [hold.column?_eq_some h] at hfound
  exact Option.map_eq_some_iff.mp hfound.symm

/-- All keys stay. -/
theorem survivingKeys_of_agrees : c.survivingKeys = (TableState.ofTable c.old).keyLeads := by
  have hall : c.old.indexes.filter c.keepsIndex = c.old.indexes :=
    List.filter_eq_self.mpr fun index h => keepsIndex_of_agrees hagrees hold h
  rw [survivingKeys, hall, changesPrimaryKey_of_agrees hagrees]
  rfl

/-- No column needs a guard just if all that number the rows lead keys. -/
theorem unguardedColumns_eq_nil_iff : c.unguardedColumns = [] ↔
    (TableState.ofTable c.old).IndexesAutoIncrement := by
  -- A column that numbers its rows in one of the tables does so in the other.
  have honce : ∀ column ∈ c.old.columns,
      c.isAutoIncrementOnce column = column.isAutoIncrement := by
    intro column hcolumn
    obtain ⟨new, hnew, hdefinition⟩ := exists_column?_of_agrees hagrees hold hcolumn
    rw [isAutoIncrementOnce, hnew]
    simp [Column.isAutoIncrement, hdefinition]
  have hleads : ∀ x, (c.survivingKeys.any fun lead => lead.head? == some x) = true ↔
      (TableState.ofTable c.old).LeadsKey x := by
    intro x
    rw [survivingKeys_of_agrees hagrees hold, List.any_eq_true]
    simp [TableState.LeadsKey]
  rw [unguardedColumns, List.map_eq_nil_iff, List.filter_eq_nil_iff]
  constructor
  · intro hnone e he hauto
    obtain ⟨column, hcolumn, rfl⟩ := List.mem_map.mp he
    have hguarded := hnone column hcolumn
    rw [honce column hcolumn, Bool.and_eq_true, not_and, Bool.not_eq_true', Bool.not_eq_false]
      at hguarded
    exact (hleads column.name).mp (hguarded hauto)
  · intro hindexed column hcolumn hunguarded
    rw [honce column hcolumn, Bool.and_eq_true, Bool.not_eq_true'] at hunguarded
    obtain ⟨hauto, hnone⟩ := hunguarded
    have hlead := hindexed (column.name, column.definition) (List.mem_map_of_mem hcolumn) hauto
    rw [(hleads column.name).mpr hlead] at hnone
    cases hnone

/-- Their comparison needs no guards just if keys of the table cover what they are for. -/
theorem guards_eq_nil_iff_of_agrees : c.guards = [] ↔
    (TableState.ofTable c.old).IndexesAutoIncrement ∧
      ∀ columns ∈ c.old.foreignKeys.map (fun key => namedColumns key.parts) ++ c.incoming,
        columns ≠ [] → (TableState.ofTable c.old).Serves columns := by
  have hserved : c.servedColumns
      = c.old.foreignKeys.map (fun key => namedColumns key.parts) ++ c.incoming := by
    have hall : c.old.foreignKeys.filter c.keepsForeignKey = c.old.foreignKeys :=
      List.filter_eq_self.mpr fun key h => keepsForeignKey_of_agrees hagrees hold h
    rw [servedColumns, hall]
  rw [guards_eq_nil_iff, unguardedColumns_eq_nil_iff hagrees hold, hserved,
    survivingKeys_of_agrees hagrees hold]
  refine and_congr_right fun _ => forall₂_congr fun columns _ => ?_
  constructor
  · exact fun h hne => ⟨hne, h hne⟩
  · exact fun h hne => (h hne).2

variable (hnew : c.new.WellFormed)
include hnew

/-- Columns are neither changed nor added nor dropped. -/
theorem columns_of_agrees : c.columnChanges = [] ∧ c.columnAdditions = [] ∧
    c.columnDrops = [] := by
  have hadded : c.addedColumns = [] := by
    rw [List.eq_nil_iff_forall_not_mem]
    intro column hcolumn
    obtain ⟨hmem, hnone⟩ := mem_addedColumns.mp hcolumn
    have hfound := hagrees.columns column.name
    rw [hnone, hnew.column?_eq_some hmem] at hfound
    cases hfound
  refine ⟨?_, ?_, ?_⟩
  · rw [columnChanges, List.filterMap_eq_nil_iff]
    intro column hcolumn
    obtain ⟨new, hnew, hdefinition⟩ := exists_column?_of_agrees hagrees hold hcolumn
    rw [changedColumn?, hnew]
    simp [hdefinition]
  · rw [columnAdditions, hadded]
    rfl
  · rw [columnDrops, droppedColumns, List.map_eq_nil_iff, List.filter_eq_nil_iff]
    intro column hcolumn
    obtain ⟨new, hnew, -⟩ := exists_column?_of_agrees hagrees hold hcolumn
    rw [dropsColumn, hnew]
    simp

/-- Nor are indexes. -/
theorem indexes_of_agrees : c.indexDrops = [] ∧ c.indexAdditions = [] := by
  constructor
  · rw [indexDrops, List.map_eq_nil_iff, List.filter_eq_nil_iff]
    intro index hindex
    simp [keepsIndex_of_agrees hagrees hold hindex]
  · rw [indexAdditions, List.map_eq_nil_iff, List.filter_eq_nil_iff]
    intro index hindex
    simp [hagrees.indexes, hnew.index?_eq_some hindex]

/-- Tables that agree only get guards, which then are dropped. -/
theorem steps_of_agrees : c.steps = c.guardAdditions ++ c.guardDrops := by
  obtain ⟨hoptions, hpartitioning, hkeyDrops, hkeyAdditions⟩ := wholeTable_of_agrees hagrees
  obtain ⟨hchanges, hadditions, hdrops⟩ := columns_of_agrees hagrees hold hnew
  obtain ⟨hindexDrops, hindexAdditions⟩ := indexes_of_agrees hagrees hold hnew
  obtain ⟨hforeignDrops, hforeignAdditions⟩ :=
    (foreignKeySteps_eq_nil_iff hold hnew).mpr hagrees.foreignKeys
  obtain ⟨hcheckDrops, hcheckAdditions⟩ := (checkSteps_eq_nil_iff hold hnew).mpr hagrees.checks
  simp [steps, hoptions, hpartitioning, hkeyDrops, hkeyAdditions, hchanges, hadditions, hdrops,
    hindexDrops, hindexAdditions, hforeignDrops, hforeignAdditions, hcheckDrops, hcheckAdditions]

/-- They get none just if there are no guards to be added. -/
theorem steps_eq_nil_iff_of_agrees : c.steps = [] ↔ c.guards = [] := by
  rw [steps_of_agrees hagrees hold hnew, guardAdditions, guardDrops, temporaryGuards]
  constructor
  · intro hnone
    exact List.map_eq_nil_iff.mp (List.append_eq_nil_iff.mp hnone).1
  · intro hnone
    rw [hnone]
    rfl

end Agrees

end TableComparison

namespace SchemaComparison

variable {c : SchemaComparison}

/-! ## When nothing is found -/

/-- No routine is changed or dropped just if each is there with its signature, or is missing where
missing ones are kept. -/
theorem routineChanges_eq_nil_iff : c.routineChanges = [] ↔ ∀ routine ∈ c.old.routines,
    (∃ new, c.new.routine? routine.key = some new ∧ routine.signature = new.signature) ∨
      c.new.routine? routine.key = none ∧ c.options.dropsMissing = false := by
  rw [routineChanges, List.flatMap_eq_nil_iff]
  refine forall₂_congr fun routine _ => ?_
  cases c.new.routine? routine.key with
  | none => cases c.options.dropsMissing <;> simp
  | some new => by_cases hsame : routine.signature = new.signature <;> simp [hsame]

/-- So it is with views. -/
theorem viewChanges_eq_nil_iff : c.viewChanges = [] ↔ ∀ view ∈ c.old.views,
    (∃ new, c.new.view? view.name = some new ∧ view.signature = new.signature) ∨
      c.new.view? view.name = none ∧ c.options.dropsMissing = false := by
  rw [viewChanges, List.flatMap_eq_nil_iff]
  refine forall₂_congr fun view _ => ?_
  cases c.new.view? view.name with
  | none => cases c.options.dropsMissing <;> simp
  | some new => by_cases hsame : view.signature = new.signature <;> simp [hsame]

/-- No routine is created just if none is new, or only what both schemas have is looked at. -/
theorem routineCreations_eq_nil_iff : c.routineCreations = [] ↔ c.options.onlyBoth = true ∨
    ∀ routine ∈ c.new.routines, c.old.routine? routine.key ≠ none := by
  rw [routineCreations]
  cases c.options.onlyBoth <;> simp

/-- So it is with views. -/
theorem viewCreations_eq_nil_iff : c.viewCreations = [] ↔ c.options.onlyBoth = true ∨
    ∀ view ∈ c.new.views, c.old.view? view.name ≠ none := by
  rw [viewCreations]
  cases c.options.onlyBoth <;> simp

/-! ## Schemas that agree -/

section Agrees

variable (hagrees : c.old.Agrees c.new) (hold : c.old.WellFormed) (hnew : c.new.WellFormed)
include hagrees hold

/-- Every table stays, and agrees with what it was. -/
theorem exists_table?_of_agrees {table : Table} (h : table ∈ c.old.tables) :
    ∃ new, c.new.table? table.name = some new ∧ table.Agrees new := by
  have hfound := hold.table?_eq_some h
  have hsome : (c.new.table? table.name).isSome = true := by
    rw [← hagrees.tableNames, hfound]
    rfl
  obtain ⟨new, hnew⟩ := Option.isSome_iff_exists.mp hsome
  exact ⟨new, hnew, hagrees.tables _ table hfound new hnew⟩

/-- The columns of a table that are listed are all those that foreign keys refer to. -/
theorem mem_incoming_of_agrees {name : Text} {columns : List Text} : columns ∈ c.incoming name ↔
    columns ≠ [] ∧ ∃ child ∈ c.old.tables, ∃ key ∈ child.foreignKeys,
      key.refTable = name ∧ namedColumns key.refParts = columns := by
  rw [mem_incoming, and_congr_right_iff]
  intro _
  constructor
  · rintro ⟨child, hchild, -, -, key, hkey, hname, -, hcolumns⟩
    exact ⟨child, hchild, key, hkey, hname, hcolumns⟩
  · rintro ⟨child, hchild, key, hkey, hname, hcolumns⟩
    obtain ⟨new, hnew, hsame⟩ := exists_table?_of_agrees hagrees hold hchild
    refine ⟨child, hchild, new, hnew, key, hkey, hname, ?_, hcolumns⟩
    rw [← hsame.foreignKeys]
    exact (hold.tables_wellFormed child hchild).foreignKey?_eq_some hkey

include hnew

/-- No table is missing, and none is created. -/
theorem tables_of_agrees : c.tableDrops = [] ∧ c.tableCreations = [] := by
  have hmissing : c.missingTables = [] := by
    rw [missingTables, List.filter_eq_nil_iff]
    intro table htable
    obtain ⟨new, hfound, -⟩ := exists_table?_of_agrees hagrees hold (List.mem_filter.mp htable).1
    simp [hfound]
  have hcreated : c.createdTables = [] := by
    rw [List.eq_nil_iff_forall_not_mem]
    intro table htable
    obtain ⟨hmem, hnone⟩ := new_of_mem_createdTables htable
    have hfound := hagrees.tableNames table.name
    rw [hnone, hnew.table?_eq_some hmem] at hfound
    cases hfound
  constructor
  · rw [tableDrops, hmissing]
    split <;> rfl
  · rw [tableCreations, hcreated]
    rfl

/-- No routine changes. -/
theorem routines_of_agrees : c.routineChanges = [] ∧ c.routineCreations = [] := by
  obtain ⟨hkept, hadded⟩ :=
    (map_find?_eq_iff hold.routineKeys_nodup hnew.routineKeys_nodup).mp hagrees.routines
  exact ⟨routineChanges_eq_nil_iff.mpr fun routine hroutine => Or.inl (hkept routine hroutine),
    routineCreations_eq_nil_iff.mpr (Or.inr hadded)⟩

/-- No view changes. -/
theorem views_of_agrees : c.viewChanges = [] ∧ c.viewCreations = [] := by
  obtain ⟨hkept, hadded⟩ :=
    (map_find?_eq_iff hold.viewNames_nodup hnew.viewNames_nodup).mp hagrees.views
  exact ⟨viewChanges_eq_nil_iff.mpr fun view hview => Or.inl (hkept view hview),
    viewCreations_eq_nil_iff.mpr (Or.inr hadded)⟩

/-- Only comparisons of tables may give something. -/
theorem foundSteps_of_agrees : c.foundSteps = c.tableChanges := by
  obtain ⟨hdrops, hcreations⟩ := tables_of_agrees hagrees hold hnew
  obtain ⟨hroutines, hnewRoutines⟩ := routines_of_agrees hagrees hold hnew
  obtain ⟨hviews, hnewViews⟩ := views_of_agrees hagrees hold hnew
  simp [foundSteps, hdrops, hcreations, hroutines, hnewRoutines, hviews, hnewViews]

/-- A table is compared with one that it agrees with. -/
theorem exists_tableComparison?_of_agrees {table : Table} (h : table ∈ c.old.tables) :
    ∃ new, c.tableComparison? table = some ⟨table, new, c.options, c.incoming table.name⟩ ∧
      table.Agrees new ∧ new.WellFormed := by
  obtain ⟨new, hfound, htable⟩ := exists_table?_of_agrees hagrees hold h
  refine ⟨new, tableComparison?_eq_some.mpr ⟨new, hfound, rfl⟩, htable, ?_⟩
  exact hnew.tables_wellFormed new (mem_of_find?_eq_some hfound).1

/-- All steps are those of the guards of some table. -/
theorem phase_of_mem_tableChanges {step : Step} (hstep : step ∈ c.tableChanges) :
    step.phase = .guardIndex ∨ step.phase = .dropGuardIndex := by
  obtain ⟨table, htable, hstep⟩ := List.mem_flatMap.mp hstep
  have hmem := (List.mem_filter.mp htable).1
  obtain ⟨new, hcomparison, hsame, hother⟩ :=
    exists_tableComparison?_of_agrees hagrees hold hnew hmem
  rw [hcomparison] at hstep
  obtain ⟨found, hfound, rfl⟩ := List.mem_map.mp hstep
  rw [TableComparison.steps_of_agrees hsame (hold.tables_wellFormed table hmem) hother] at hfound
  rcases List.mem_append.mp hfound with hfound | hfound
  · obtain ⟨guard, -, rfl⟩ := List.mem_map.mp hfound
    exact Or.inl rfl
  · obtain ⟨guard, -, rfl⟩ := List.mem_map.mp hfound
    exact Or.inr rfl

/-- The tables give nothing just if every key that the server insists on is there. -/
theorem tableChanges_eq_nil_iff : c.tableChanges = [] ↔ c.old.IsIndexed c.options := by
  have htables : c.tableChanges = [] ↔ ∀ table ∈ c.selectedTables,
      (TableState.ofTable table).IndexesAutoIncrement ∧
        ∀ columns ∈ table.foreignKeys.map (fun key => namedColumns key.parts) ++
          c.incoming table.name, columns ≠ [] → (TableState.ofTable table).Serves columns := by
    rw [tableChanges, List.flatMap_eq_nil_iff]
    refine forall₂_congr fun table htable => ?_
    have hmem := (List.mem_filter.mp htable).1
    have htable := hold.tables_wellFormed table hmem
    obtain ⟨new, hcomparison, hsame, hother⟩ :=
      exists_tableComparison?_of_agrees hagrees hold hnew hmem
    rw [hcomparison, List.map_eq_nil_iff,
      TableComparison.steps_eq_nil_iff_of_agrees hsame htable hother,
      TableComparison.guards_eq_nil_iff_of_agrees hsame htable]
  rw [htables]
  constructor
  · intro hall
    have hselected : ∀ table ∈ c.old.tables, c.options.selects table.name = true →
        table ∈ c.selectedTables := fun table h hselects => List.mem_filter.mpr ⟨h, hselects⟩
    constructor
    · exact fun table h hselects => (hall table (hselected table h hselects)).1
    · intro table h hselects key hkey
      refine (hall table (hselected table h hselects)).2 _ (List.mem_append_left _ ?_)
      exact List.mem_map_of_mem hkey
    · intro table h hselects child hchild key hkey hname hne
      refine (hall table (hselected table h hselects)).2 _ (List.mem_append_right _ ?_) hne
      exact (mem_incoming_of_agrees hagrees hold).mpr
        ⟨hne, child, hchild, key, hkey, hname, rfl⟩
  · intro hindexed table htable
    obtain ⟨hmem, hselects⟩ := List.mem_filter.mp htable
    refine ⟨hindexed.autoIncrement table hmem hselects, ?_⟩
    intro columns hcolumns hne
    rcases List.mem_append.mp hcolumns with hcolumns | hcolumns
    · obtain ⟨key, hkey, rfl⟩ := List.mem_map.mp hcolumns
      exact hindexed.foreignKeys table hmem hselects key hkey hne
    · obtain ⟨-, child, hchild, key, hkey, hname, rfl⟩ :=
        (mem_incoming_of_agrees hagrees hold).mp hcolumns
      exact hindexed.references table hmem hselects child hchild key hkey hname hne

end Agrees

/-! ## Statements -/

/-- Nothing is to be executed just if nothing was found. -/
theorem statements_eq_nil_iff_foundSteps : c.statements = [] ↔ c.foundSteps = [] := by
  simp [statements, steps, List.eq_nil_iff_forall_not_mem]

/-- Between schemas that agree nothing is to be executed just if every key that the server insists
on is there. -/
theorem statements_eq_nil_iff_of_agrees (hagrees : c.old.Agrees c.new) (hold : c.old.WellFormed)
    (hnew : c.new.WellFormed) : c.statements = [] ↔ c.old.IsIndexed c.options := by
  rw [statements_eq_nil_iff_foundSteps, foundSteps_of_agrees hagrees hold hnew,
    tableChanges_eq_nil_iff hagrees hold hnew]

end SchemaComparison

end SchemaMigration
