import SchemaMigration.Proofs.Migration.Agreement

/-!
# No difference is missed

A comparison looks for what only one of two schemas has, and for what both have in different
forms. Where it finds nothing, the schemas agree: with no column to be added and no guard, there
is no way left for a key to come but on its own.

## Main Definitions

* `Options.ComparesAll` - nothing is left out of a comparison
* `TableComparison.agrees_of_steps_eq_nil` - tables that get nothing agree
* `SchemaComparison.agrees_of_foundSteps_eq_nil` - so do schemas
* `statements_eq_nil_iff` - when the comparison of two schemas is empty
-/

namespace SchemaMigration

/-- Nothing is left out of a comparison: all tables are looked at, as they are written, and an
object counts if only one of the schemas has it. -/
structure Options.ComparesAll (options : Options) : Prop where
  tolerant : options.tolerant = false
  selects : ∀ name, options.selects name = true
  onlyBoth : options.onlyBoth = false
  dropsMissing : options.dropsMissing = true

theorem Options.comparesAll_default : Options.default.ComparesAll where
  tolerant := rfl
  selects _ := rfl
  onlyBoth := rfl
  dropsMissing := rfl

namespace TableComparison

variable {c : TableComparison}

/-! ## Tables -/

/-- Without tolerance, columns that are neither changed nor added nor dropped are the same. -/
theorem columns_of_steps (hold : c.old.WellFormed) (hnew : c.new.WellFormed)
    (htolerant : c.options.tolerant = false) (hchanges : c.columnChanges = [])
    (hadded : c.addedColumns = []) (hdrops : c.columnDrops = []) : ∀ name,
      (c.old.column? name).map (·.definition) = (c.new.column? name).map (·.definition) := by
  rw [columnDrops, List.map_eq_nil_iff, droppedColumns, List.filter_eq_nil_iff] at hdrops
  rw [columnChanges, List.filterMap_eq_nil_iff] at hchanges
  refine (map_find?_eq_iff hold.columnNames_nodup hnew.columnNames_nodup).mpr ⟨?_, ?_⟩
  · intro column hcolumn
    have hstays := hdrops column hcolumn
    have hsame := hchanges column hcolumn
    rw [dropsColumn, hold.column?_eq_some hcolumn] at hstays
    rw [changedColumn?] at hsame
    cases hfound : c.new.column? column.name with
    | none => simp [hfound] at hstays
    | some new =>
        refine ⟨new, hfound, ?_⟩
        simpa [hfound, Options.normalizeColumn, Options.normalize, htolerant] using hsame
  · intro column hcolumn hnone
    have hin : column ∈ c.addedColumns := mem_addedColumns.mpr ⟨hcolumn, hnone⟩
    rw [hadded] at hin
    cases hin

/-- Without added columns and guards, so are indexes. -/
theorem indexes_of_steps (hold : c.old.WellFormed) (hnew : c.new.WellFormed)
    (hadded : c.addedColumns = []) (hguards : c.guards = []) (hdrops : c.indexDrops = [])
    (hadditions : c.indexAdditions = []) : ∀ name, c.old.index? name = c.new.index? name := by
  -- An index that is not added itself is there already, for no other way to come is left.
  have hinline : ∀ name, c.addsIndexInline name = false := by
    intro name
    rw [addsIndexInline, hadded]
    rfl
  have hadopts : ∀ name, c.adoptsIndex name = false := by
    intro name
    rw [guards, List.append_eq_nil_iff] at hguards
    rw [adoptsIndex, hguards.1]
    rfl
  rw [indexDrops, List.map_eq_nil_iff] at hdrops
  rw [indexAdditions, List.map_eq_nil_iff] at hadditions
  refine (filters_eq_nil_iff hold.indexNames_nodup hnew.indexNames_nodup ?_ ?_).mp
    ⟨hdrops, hadditions⟩
  · simp [keepsIndex, Table.index?]
  · simp [hinline, hadopts, Table.index?]

/-- So is the primary key. -/
theorem primaryKey_of_steps (hadded : c.addedColumns = []) (hdrops : c.primaryKeyDrops = [])
    (hadditions : c.primaryKeyAdditions = []) : c.old.primaryKey = c.new.primaryKey := by
  by_contra hne
  have hchanges : c.changesPrimaryKey = true := by simpa [changesPrimaryKey] using hne
  have hinline : c.addsPrimaryKeyInline = false := by
    rw [addsPrimaryKeyInline, hadded]
    rfl
  have hadds : (c.changesPrimaryKey && ! c.addsPrimaryKeyInline) = true := by
    rw [hchanges, hinline]
    rfl
  rw [primaryKeyDrops, if_pos hchanges, List.map_eq_nil_iff, Option.toList_eq_nil_iff] at hdrops
  rw [primaryKeyAdditions, if_pos hadds, List.map_eq_nil_iff, Option.toList_eq_nil_iff]
    at hadditions
  exact hne (hdrops.trans hadditions.symm)

/-- Without tolerance, so are the options. -/
theorem baseOptions_of_steps (htolerant : c.options.tolerant = false) (h : c.optionSteps = []) :
    c.old.baseOptions = c.new.baseOptions := by
  rw [optionSteps] at h
  split at h
  · cases h
  · rename_i hkept
    simpa [changesOptions, Options.normalizeTableOptions, Options.normalize, htolerant] using hkept

/-- Without tolerance, tables that get nothing agree. -/
theorem agrees_of_steps_eq_nil (hold : c.old.WellFormed) (hnew : c.new.WellFormed)
    (htolerant : c.options.tolerant = false) (hnone : c.steps = []) : c.old.Agrees c.new := by
  simp only [steps, List.append_eq_nil_iff, and_assoc] at hnone
  obtain ⟨hforeignDrops, hcheckDrops, hoptions, hpartitioning, hguardAdditions, hindexDrops,
    hkeyDrops, hchanges, hadditions, hkeyAdditions, hindexAdditions, hdrops, hforeignAdditions,
    hcheckAdditions, -⟩ := hnone
  have hguards : c.guards = [] := List.map_eq_nil_iff.mp hguardAdditions
  have hadded : c.addedColumns = [] := by
    rw [columnAdditions] at hadditions
    cases hcolumns : c.addedColumns with
    | nil => rfl
    | cons column rest =>
        rw [hcolumns] at hadditions
        cases hadditions
  exact {
    columns := columns_of_steps hold hnew htolerant hchanges hadded hdrops
    primaryKey := primaryKey_of_steps hadded hkeyDrops hkeyAdditions
    indexes := indexes_of_steps hold hnew hadded hguards hindexDrops hindexAdditions
    foreignKeys := (foreignKeySteps_eq_nil_iff hold hnew).mp ⟨hforeignDrops, hforeignAdditions⟩
    checks := (checkSteps_eq_nil_iff hold hnew).mp ⟨hcheckDrops, hcheckAdditions⟩
    baseOptions := baseOptions_of_steps htolerant hoptions
    partitioning := partitioningSteps_eq_nil_iff.mp hpartitioning }

end TableComparison

namespace SchemaComparison

variable {c : SchemaComparison}

/-! ## Schemas -/

section Unstepped

variable (hall : c.options.ComparesAll) (hold : c.old.WellFormed) (hnew : c.new.WellFormed)
include hall

/-- If none is dropped, no table is missing. -/
theorem missingTables_eq_nil (hdrops : c.tableDrops = []) : c.missingTables = [] := by
  rw [tableDrops, if_pos hall.dropsMissing, List.map_eq_nil_iff] at hdrops
  have hnames : c.missingTables.map (·.name) ⊆ dropOrder c.missingTables :=
    subset_dependencyOrder _ _ _
  rw [hdrops, List.subset_nil, List.map_eq_nil_iff] at hnames
  exact hnames

include hnew

/-- Every table that only the second schema has is created. -/
theorem mem_createdTables {table : Table} (hmem : table ∈ c.new.tables)
    (hnone : c.old.table? table.name = none) : table ∈ c.createdTables := by
  rw [createdTables, createdFor, if_neg (by simp [hall.onlyBoth])]
  refine List.mem_filterMap.mpr ⟨table.name, subset_dependencyOrder _ _ _ ?_, ?_⟩
  · refine List.mem_filter.mpr ⟨List.mem_map_of_mem hmem, ?_⟩
    simp [hall.selects, hnone]
  · exact hnew.table?_eq_some hmem

/-- If none is dropped or created, both schemas have tables of the same names. -/
theorem tableNames_of_steps (hdrops : c.tableDrops = []) (hcreations : c.tableCreations = []) :
    ∀ name, (c.old.table? name).isSome = (c.new.table? name).isSome := by
  intro name
  rw [Bool.eq_iff_iff, Option.isSome_iff_exists]
  constructor
  · rintro ⟨table, htable⟩
    obtain ⟨hmem, rfl⟩ := mem_of_find?_eq_some htable
    have hmissing := missingTables_eq_nil hall hdrops
    rw [missingTables, List.filter_eq_nil_iff] at hmissing
    have hstays := hmissing table (List.mem_filter.mpr ⟨hmem, hall.selects _⟩)
    rwa [Bool.not_eq_true, Option.isNone_eq_false_iff] at hstays
  · intro hsome
    obtain ⟨table, htable⟩ := Option.isSome_iff_exists.mp hsome
    obtain ⟨hmem, rfl⟩ := mem_of_find?_eq_some htable
    rw [tableCreations, List.append_eq_nil_iff, List.map_eq_nil_iff] at hcreations
    by_contra hnone
    rw [← Option.isSome_iff_exists, Option.not_isSome_iff_eq_none] at hnone
    have hcreated := mem_createdTables hall hnew hmem hnone
    rw [hcreations.1] at hcreated
    cases hcreated

include hold

/-- If none is changed, tables of one name agree. -/
theorem tables_of_steps (hchanges : c.tableChanges = []) :
    ∀ name, ∀ table ∈ c.old.table? name, ∀ other ∈ c.new.table? name, table.Agrees other := by
  intro name table htable other hother
  obtain ⟨hmem, rfl⟩ := mem_of_find?_eq_some htable
  have hselected : table ∈ c.selectedTables := List.mem_filter.mpr ⟨hmem, hall.selects _⟩
  have hcomparison := tableComparison?_eq_some.mpr ⟨other, hother, rfl⟩
  rw [tableChanges, List.flatMap_eq_nil_iff] at hchanges
  have hnone := hchanges table hselected
  rw [hcomparison, List.map_eq_nil_iff] at hnone
  exact TableComparison.agrees_of_steps_eq_nil (hold.tables_wellFormed table hmem)
    (hnew.tables_wellFormed other (mem_of_find?_eq_some hother).1) hall.tolerant hnone

/-- Routines that are neither changed nor created are the same. -/
theorem routines_of_steps (hchanges : c.routineChanges = [])
    (hcreations : c.routineCreations = []) : ∀ key,
      (c.old.routine? key).map (·.signature) = (c.new.routine? key).map (·.signature) := by
  refine (map_find?_eq_iff hold.routineKeys_nodup hnew.routineKeys_nodup).mpr ⟨?_, ?_⟩
  · intro routine hroutine
    refine (routineChanges_eq_nil_iff.mp hchanges routine hroutine).resolve_right ?_
    simp [hall.dropsMissing]
  · exact (routineCreations_eq_nil_iff.mp hcreations).resolve_left (by simp [hall.onlyBoth])

/-- So are views. -/
theorem views_of_steps (hchanges : c.viewChanges = []) (hcreations : c.viewCreations = []) :
    ∀ name, (c.old.view? name).map (·.signature) = (c.new.view? name).map (·.signature) := by
  refine (map_find?_eq_iff hold.viewNames_nodup hnew.viewNames_nodup).mpr ⟨?_, ?_⟩
  · intro view hview
    refine (viewChanges_eq_nil_iff.mp hchanges view hview).resolve_right ?_
    simp [hall.dropsMissing]
  · exact (viewCreations_eq_nil_iff.mp hcreations).resolve_left (by simp [hall.onlyBoth])

/-- Schemas that get nothing agree. -/
theorem agrees_of_foundSteps_eq_nil (hnone : c.foundSteps = []) : c.old.Agrees c.new := by
  simp only [foundSteps, List.append_eq_nil_iff, and_assoc] at hnone
  obtain ⟨hchanges, hdrops, hroutines, hviews, hcreations, hnewRoutines, hnewViews⟩ := hnone
  exact {
    tableNames := tableNames_of_steps hall hnew hdrops hcreations
    tables := tables_of_steps hall hold hnew hchanges
    views := views_of_steps hall hold hnew hviews hnewViews
    routines := routines_of_steps hall hold hnew hroutines hnewRoutines }

end Unstepped

end SchemaComparison

/-- No difference is missed: between any two schemas that were read, the comparison with default
options is empty just if the schemas agree and every key that the server insists on is there. -/
theorem statements_eq_nil_iff {keepQuotes keepQuotes' : Bool}
    {oldSource newSource oldText newText : Text} {old new : Schema}
    (hold : Schema.parse keepQuotes oldSource oldText = .ok old)
    (hnew : Schema.parse keepQuotes' newSource newText = .ok new) :
    (⟨old, new, .default⟩ : SchemaComparison).statements = [] ↔
      old.Agrees new ∧ old.IsIndexed .default := by
  have hold := Schema.wellFormed_of_parse hold
  have hnew := Schema.wellFormed_of_parse hnew
  let c : SchemaComparison := ⟨old, new, .default⟩
  constructor
  · intro hnone
    have hagrees : old.Agrees new :=
      SchemaComparison.agrees_of_foundSteps_eq_nil (c := c) Options.comparesAll_default hold hnew
        (SchemaComparison.statements_eq_nil_iff_foundSteps.mp hnone)
    exact ⟨hagrees,
      (SchemaComparison.statements_eq_nil_iff_of_agrees (c := c) hagrees hold hnew).mp hnone⟩
  · rintro ⟨hagrees, hindexed⟩
    exact (SchemaComparison.statements_eq_nil_iff_of_agrees (c := c) hagrees hold hnew).mpr hindexed

/-- A table with some keys. -/
def plainTable : Table where
  name := "t"
  columns := [⟨"a", "int", 0⟩, ⟨"b", "int", 1⟩]
  indexes := [⟨"k", .plain, ["b"], []⟩, ⟨"u", .unique, ["a", "b"], []⟩]
  primaryKey := some ⟨["a"], []⟩
  foreignKeys := []
  checks := []
  options := []
  definition :=
    "CREATE TABLE t (\n  a int,\n  b int,\n  PRIMARY KEY (a),\n  KEY k (b),\n" ++
    "  UNIQUE KEY u (a,b)\n);"

/-- The same with everything in another order. -/
def shuffledTable : Table where
  name := "t"
  columns := [⟨"b", "int", 0⟩, ⟨"a", "int", 1⟩]
  indexes := [⟨"u", .unique, ["a", "b"], []⟩, ⟨"k", .plain, ["b"], []⟩]
  primaryKey := some ⟨["a"], []⟩
  foreignKeys := []
  checks := []
  options := []
  definition :=
    "CREATE TABLE t (\n  b int,\n  a int,\n  UNIQUE KEY u (a,b),\n  KEY k (b),\n" ++
    "  PRIMARY KEY (a)\n);"

/-- A view of the table, with the query as it is written. -/
def viewOf (query : Text) : View where
  name := "v"
  columns := []
  select := query
  algorithm := "UNDEFINED"
  definer := "CURRENT_USER"
  security := "DEFINER"
  checkOption := []
  definition := "CREATE VIEW v AS " ++ query ++ ";"

/-- Neither the order of columns and keys makes a difference nor the layout of a query. -/
theorem statements_eq_nil_iff_shuffled :
    let old : Schema := ⟨[plainTable], [viewOf "SELECT a FROM t"], [], []⟩
    let new : Schema := ⟨[shuffledTable], [viewOf "SELECT  a\nFROM t"], [], []⟩
    (⟨old, new, .default⟩ : SchemaComparison).statements = [] ∧ old.Agrees new := by
  intro old new
  have hnone : (⟨old, new, .default⟩ : SchemaComparison).statements = [] := by decide +kernel
  have hiff := statements_eq_nil_iff
    (show Schema.parse false [] (plainTable.definition ++ "\nCREATE VIEW v AS SELECT a FROM t;")
      = .ok old by decide +kernel)
    (show Schema.parse false [] ("CREATE VIEW v AS SELECT  a\nFROM t;\n" ++
      shuffledTable.definition) = .ok new by decide +kernel)
  exact ⟨hnone, (hiff.mp hnone).1⟩

end SchemaMigration
