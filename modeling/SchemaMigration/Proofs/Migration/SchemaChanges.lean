import SchemaMigration.Migration.SchemaComparison
import SchemaMigration.Proofs.DependencyOrder
import SchemaMigration.Proofs.Schema.WellFormed
import SchemaMigration.Proofs.Migration.KeyService
import SchemaMigration.Proofs.Migration.SchemaState

/-!
# The steps on tables

What the comparison of two schemas asks of their tables: a table that both have goes through the
changes of its own comparison, one that only the first has is dropped, and one that only the
second has is created and then gets its foreign keys.

## Main Definitions

* `alterTable_mem`, `dropTable_mem`, `createTable_mem` - when a step on a table is made
* `alterations_eq_changes` - the changes of a table that both schemas have
* `filter_statements_eq` - and the statements that ask for them
* `alterations_eq_nil` - a table that only the first schema has is not changed
* `mem_alterations_created` - a created table only gets its foreign keys
* `mem_incoming` - which columns of a table foreign keys refer to that stay
-/

namespace SchemaMigration

/-- Whether a step is one on a table. -/
def Step.isOnTable : Step → Bool
  | alterTable _ _ | dropTable _ | createTable _ => true
  | _ => false

namespace SchemaComparison

variable {c : SchemaComparison}

/-- Steps are made in order of phase. -/
theorem pairwise_steps (c : SchemaComparison) : c.steps.Pairwise fun a b => a.phase ≤ b.phase :=
  Phase.pairwise_arrange _

theorem exists_of_mem_routineCreations {step : Step} (h : step ∈ c.routineCreations) :
    ∃ routine, step = .createRoutine routine := by
  rw [routineCreations] at h
  split at h
  · cases h
  · obtain ⟨routine, -, rfl⟩ := List.mem_map.mp h
    exact ⟨routine, rfl⟩

theorem exists_of_mem_viewCreations {step : Step} (h : step ∈ c.viewCreations) :
    ∃ view, step = .createView view := by
  rw [viewCreations] at h
  split at h
  · cases h
  · obtain ⟨view, -, rfl⟩ := List.mem_map.mp h
    exact ⟨view, rfl⟩

/-- No step on a routine or a view is one on a table. -/
theorem isOnTable_of_mem {step : Step}
    (h : step ∈ c.routineChanges ++ c.viewChanges ++ c.routineCreations ++ c.viewCreations) :
    step.isOnTable = false := by
  simp only [List.mem_append] at h
  rcases h with ((h | h) | h) | h
  · obtain ⟨routine, -, h⟩ := List.mem_flatMap.mp h
    cases hnew : c.new.routine? routine.key <;> simp only [hnew] at h <;> split at h <;>
      simp_all [Step.isOnTable]
  · obtain ⟨view, -, h⟩ := List.mem_flatMap.mp h
    cases hnew : c.new.view? view.name <;> simp only [hnew] at h <;> split at h <;>
      simp_all [Step.isOnTable]
  · obtain ⟨routine, rfl⟩ := exists_of_mem_routineCreations h
    rfl
  · obtain ⟨view, rfl⟩ := exists_of_mem_viewCreations h
    rfl

/-- A step on a table comes from a comparison, or drops or creates tables. -/
theorem mem_steps {step : Step} (hstep : step.isOnTable = true) :
    step ∈ c.steps ↔ step ∈ c.tableChanges ∨ step ∈ c.tableDrops ∨ step ∈ c.tableCreations := by
  have hother : step ∉ c.routineChanges ++ c.viewChanges ++ c.routineCreations ++
      c.viewCreations := by
    intro h
    rw [isOnTable_of_mem h] at hstep
    cases hstep
  simp only [List.mem_append, not_or] at hother
  simp [steps, foundSteps, hother]

/-- A table is altered by the steps of its comparison, or gets a foreign key once created. -/
theorem alterTable_mem {name : Text} {step : TableStep} : .alterTable name step ∈ c.steps ↔
    (∃ table ∈ c.selectedTables, ∃ comparison, c.tableComparison? table = some comparison ∧
      table.name = name ∧ step ∈ comparison.steps) ∨
    ∃ table ∈ c.createdTables, table.name = name ∧ ∃ key ∈ table.foreignKeys,
      step = { change := .addForeignKey key, action := .addForeignKey, comment := [] } := by
  rw [mem_steps rfl]
  constructor
  · rintro (h | h | h)
    · obtain ⟨table, htable, h⟩ := List.mem_flatMap.mp h
      split at h
      · cases h
      · rename_i comparison hcomparison
        obtain ⟨found, hfound, heq⟩ := List.mem_map.mp h
        obtain ⟨rfl, rfl⟩ := Step.alterTable.inj heq
        exact Or.inl ⟨table, htable, comparison, hcomparison, rfl, hfound⟩
    · rw [tableDrops] at h
      split at h <;> simp at h
    · rcases List.mem_append.mp h with h | h
      · simp at h
      · obtain ⟨table, htable, h⟩ := List.mem_flatMap.mp h
        obtain ⟨key, hkey, heq⟩ := List.mem_map.mp h
        obtain ⟨rfl, rfl⟩ := Step.alterTable.inj heq
        exact Or.inr ⟨table, htable, rfl, key, hkey, rfl⟩
  · rintro (⟨table, htable, comparison, hcomparison, rfl, hstep⟩ |
      ⟨table, htable, rfl, key, hkey, rfl⟩)
    · refine Or.inl (List.mem_flatMap.mpr ⟨table, htable, ?_⟩)
      rw [hcomparison]
      exact List.mem_map_of_mem hstep
    · refine Or.inr (Or.inr (List.mem_append_right _ (List.mem_flatMap.mpr ⟨table, htable, ?_⟩)))
      exact List.mem_map.mpr ⟨key, hkey, rfl⟩

/-- A table is dropped if it is missing from the second schema, unless missing ones are kept. -/
theorem dropTable_mem {name : Text} : .dropTable name ∈ c.steps ↔
    c.options.dropsMissing = true ∧ name ∈ c.missingTables.map (·.name) := by
  have horder : name ∈ dropOrder c.missingTables ↔ name ∈ c.missingTables.map (·.name) := by
    constructor
    · refine forall_mem_dependencyOrder (P := (· ∈ c.missingTables.map (·.name)))
        (fun _ h => h) ?_ name
      intro _ _ other hother
      exact (List.filter_sublist.trans List.filter_sublist).map _ |>.subset hother
    · exact fun h => subset_dependencyOrder _ _ _ h
  rw [mem_steps rfl]
  constructor
  · rintro (h | h | h)
    · obtain ⟨table, -, h⟩ := List.mem_flatMap.mp h
      split at h <;> simp at h
    · rw [tableDrops] at h
      split at h
      · rename_i hdrops
        exact ⟨hdrops, horder.mp (by simpa using h)⟩
      · cases h
    · simp [tableCreations] at h
  · rintro ⟨hdrops, h⟩
    refine Or.inr (Or.inl ?_)
    simpa [tableDrops, hdrops] using horder.mpr h

/-- The created tables are new. -/
theorem createTable_mem {table : Table} (h : .createTable table ∈ c.steps) :
    table ∈ c.createdTables := by
  rw [mem_steps rfl] at h
  rcases h with h | h | h
  · obtain ⟨table, -, h⟩ := List.mem_flatMap.mp h
    split at h <;> simp at h
  · rw [tableDrops] at h
    split at h <;> simp at h
  · simpa [tableCreations] using h

/-- Every table that is to be created is. -/
theorem createTable_mem_of_mem {table : Table} (h : table ∈ c.createdTables) :
    .createTable table ∈ c.steps := by
  rw [mem_steps rfl]
  exact Or.inr (Or.inr (List.mem_append_left _ (List.mem_map_of_mem h)))

/-- Only tables that the second schema has and the first has not are created. -/
theorem new_of_mem_createdTables {table : Table} (h : table ∈ c.createdTables) :
    table ∈ c.new.tables ∧ c.old.table? table.name = none := by
  rw [createdTables, createdFor] at h
  split at h
  · cases h
  · obtain ⟨name, hname, htable⟩ := List.mem_filterMap.mp h
    obtain ⟨hmem, rfl⟩ := mem_of_find?_eq_some htable
    refine ⟨hmem, ?_⟩
    refine forall_mem_dependencyOrder (P := fun name => c.old.table? name = none) ?_ ?_ _ hname
    · intro name hwanted
      have hselected := (List.mem_filter.mp hwanted).2
      simp only [Bool.and_eq_true] at hselected
      simpa using hselected.2
    · intro name _ other hother
      rw [newReferences] at hother
      split at hother
      · cases hother
      · have hnew := (List.mem_filter.mp hother).2
        simp only [isNewTable, Bool.and_eq_true] at hnew
        simpa using hnew.2

/-! ## The changes of a table -/

/-- A table is compared with the one of its name, and with the columns that are referred to. -/
theorem tableComparison?_eq_some {table : Table} {comparison : TableComparison} :
    c.tableComparison? table = some comparison ↔ ∃ new, c.new.table? table.name = some new ∧
      comparison = ⟨table, new, c.options, c.incoming table.name⟩ := by
  rw [tableComparison?, Option.map_eq_some_iff]
  constructor <;> rintro ⟨new, hnew, rfl⟩ <;> exact ⟨new, hnew, rfl⟩

/-- An alteration is made in the phase of its step. -/
theorem phase_of_tableStep? {table : Text} {step : Step} {found : TableStep}
    (h : step.tableStep? table = some found) : found.change.phase = step.phase := by
  rw [Step.tableStep?_eq_some.mp h]
  rfl

/-- So is the change that it makes. -/
theorem phase_of_alterationOf? {table : Text} {step : Step} {change : TableChange}
    (h : step.alterationOf? table = some change) : change.phase = step.phase := by
  obtain ⟨found, rfl, rfl⟩ := Step.alterationOf?_eq_some.mp h
  rfl

/-- The alterations of a table are arranged as the steps are. -/
theorem tableSteps_steps (table : Text) : tableSteps table c.steps
    = Phase.arrange (·.change.phase) (tableSteps table c.foundSteps) :=
  Phase.filterMap_arrange (fun _ _ h => phase_of_tableStep? h) c.foundSteps

/-- Apart from the comparisons only the creation of tables alters tables. -/
theorem tableSteps_foundSteps (table : Text) : tableSteps table c.foundSteps
    = tableSteps table c.tableChanges ++ tableSteps table c.tableCreations := by
  have hnone : ∀ {steps : List Step}, (∀ step ∈ steps, step.isOnTable = false ∨
      ∃ name, step = .dropTable name) → tableSteps table steps = [] := by
    intro steps hsteps
    rw [tableSteps, List.filterMap_eq_nil_iff]
    intro step hstep
    rcases hsteps step hstep with hother | ⟨name, rfl⟩
    · cases step <;> first | rfl | cases hother
    · rfl
  have hdrops : tableSteps table c.tableDrops = [] := by
    refine hnone fun step hstep => Or.inr ?_
    rw [tableDrops] at hstep
    split at hstep
    · obtain ⟨name, -, rfl⟩ := List.mem_map.mp hstep
      exact ⟨name, rfl⟩
    · cases hstep
  have hothers : tableSteps table
      (c.routineChanges ++ c.viewChanges ++ c.routineCreations ++ c.viewCreations) = [] :=
    hnone fun step hstep => Or.inl (isOnTable_of_mem hstep)
  simp only [tableSteps, List.filterMap_append, List.append_eq_nil_iff] at hdrops hothers
  obtain ⟨⟨⟨hroutines, hviews⟩, hnewRoutines⟩, hnewViews⟩ := hothers
  simp [tableSteps, foundSteps, hdrops, hroutines, hviews, hnewRoutines, hnewViews]

/-- A table of the first schema is not created. -/
theorem name_ne_of_mem_createdTables (hold : c.old.WellFormed) {table created : Table}
    (htable : table ∈ c.old.tables) (hcreated : created ∈ c.createdTables) :
    created.name ≠ table.name := by
  intro hname
  have hnone := (new_of_mem_createdTables hcreated).2
  rw [hname, hold.table?_eq_some htable] at hnone
  cases hnone

/-- A table that both schemas have is altered by the steps of its comparison. -/
theorem tableSteps_eq (hold : c.old.WellFormed) {table : Table}
    (htable : table ∈ c.selectedTables) {comparison : TableComparison}
    (hcomparison : c.tableComparison? table = some comparison) :
    tableSteps table.name c.steps = Phase.arrange (·.change.phase) comparison.steps := by
  have hnodup : (c.selectedTables.map (·.name)).Nodup := nodup_filter _ hold.tableNames_nodup
  -- Comparisons of other tables have steps of other names.
  have hcompared : tableSteps table.name c.tableChanges = comparison.steps := by
    rw [tableSteps, tableChanges, List.filterMap_flatMap, flatMap_eq_of_mem hnodup htable]
    · rw [hcomparison]
      simp [Step.tableStep?]
    · intro other _ hname
      cases c.tableComparison? other with
      | none => rfl
      | some found => simp [Step.tableStep?, hname]
  have hcreated : tableSteps table.name c.tableCreations = [] := by
    rw [List.eq_nil_iff_forall_not_mem]
    intro step hstep
    have hmem := mem_tableSteps.mp hstep
    simp only [tableCreations, List.mem_append, List.mem_map, List.mem_flatMap] at hmem
    rcases hmem with ⟨_, -, hmem⟩ | ⟨created, hcreated, key, -, hmem⟩
    · cases hmem
    · obtain ⟨hname, -⟩ := Step.alterTable.inj hmem
      exact name_ne_of_mem_createdTables hold (List.mem_filter.mp htable).1 hcreated hname
  rw [tableSteps_steps, tableSteps_foundSteps, hcompared, hcreated, List.append_nil]

/-- It goes through the changes of its comparison. -/
theorem alterations_eq_changes (hold : c.old.WellFormed) {table : Table}
    (htable : table ∈ c.selectedTables) {comparison : TableComparison}
    (hcomparison : c.tableComparison? table = some comparison) :
    alterations table.name c.steps = comparison.changes := by
  rw [alterations_eq_map, tableSteps_eq hold htable hcomparison, TableComparison.changes_eq_map]

/-- The statements that alter a table are those of the steps that do. -/
theorem filter_map_statement (table : Text) (steps : List Step) :
    (steps.map Step.statement).filter (fun statement => statement.name = table ∧
      statement.phase.altersTables) = (tableSteps table steps).map (·.statement table) := by
  induction steps with
  | nil => rfl
  | cons step steps ih =>
      rw [List.map_cons, List.filter_cons, ih]
      cases step with
      | alterTable name found =>
          by_cases hname : name = table
          · simp [tableSteps, Step.tableStep?, Step.statement, TableStep.statement, hname]
          · simp [tableSteps, Step.tableStep?, Step.statement, TableStep.statement, hname]
      | _ => simp [tableSteps, Step.tableStep?, Step.statement, Step.simpleStatement,
          Phase.altersTables]

/-- The statements that alter it are those of its comparison. -/
theorem filter_statements_eq (hold : c.old.WellFormed) {table : Table}
    (htable : table ∈ c.selectedTables) {comparison : TableComparison}
    (hcomparison : c.tableComparison? table = some comparison) :
    c.statements.filter (fun statement => statement.name = table.name ∧
      statement.phase.altersTables) = comparison.statements := by
  have hname : comparison.name = table.name := by
    obtain ⟨new, -, rfl⟩ := tableComparison?_eq_some.mp hcomparison
    rfl
  rw [statements, filter_map_statement, tableSteps_eq hold htable hcomparison,
    TableComparison.statements, TableComparison.arrange_statements, hname]

/-- A table that only the first schema has is not changed. -/
theorem alterations_eq_nil (hold : c.old.WellFormed) {table : Table}
    (htable : table ∈ c.old.tables) (hmissing : c.new.table? table.name = none) :
    alterations table.name c.steps = [] := by
  rw [List.eq_nil_iff_forall_not_mem]
  intro change hchange
  obtain ⟨step, hstep, -⟩ := mem_alterations.mp hchange
  rcases alterTable_mem.mp hstep with ⟨other, _, comparison, hcomparison, hname, -⟩ |
    ⟨created, hcreated, hname, -⟩
  · rw [tableComparison?, hname, hmissing] at hcomparison
    cases hcomparison
  · exact name_ne_of_mem_createdTables hold htable hcreated hname

/-- A created table only gets its foreign keys. -/
theorem mem_alterations_created (hnew : c.new.WellFormed) {table : Table}
    (hcreated : table ∈ c.createdTables) {change : TableChange}
    (hchange : change ∈ alterations table.name c.steps) :
    ∃ key ∈ table.foreignKeys, change = .addForeignKey key := by
  obtain ⟨step, hstep, rfl⟩ := mem_alterations.mp hchange
  obtain ⟨hmem, hnone⟩ := new_of_mem_createdTables hcreated
  rcases alterTable_mem.mp hstep with ⟨other, hother, _, -, hname, -⟩ |
    ⟨created, hother, hname, key, hkey, rfl⟩
  · have hin : other ∈ c.old.tables := (List.mem_filter.mp hother).1
    rw [← hname] at hnone
    exact absurd (List.mem_map_of_mem hin) (find?_eq_none_iff.mp hnone)
  · have hsame : created = table :=
      eq_of_key_eq hnew.tableNames_nodup (new_of_mem_createdTables hother).1 hmem hname
    rw [hsame] at hkey
    exact ⟨key, hkey, rfl⟩

/-! ## Columns that foreign keys refer to -/

/-- Columns are collected once, and only if there are any. -/
theorem mem_collect {found : List (List Text)} {columns more : List Text} :
    columns ∈ (if more.isEmpty || found.contains more then found else found ++ [more]) ↔
      columns ∈ found ∨ columns ≠ [] ∧ more = columns := by
  split
  · rename_i hskip
    simp only [Bool.or_eq_true, List.isEmpty_iff, List.contains_iff_mem] at hskip
    constructor
    · exact Or.inl
    · rintro (h | ⟨hne, rfl⟩)
      · exact h
      · exact hskip.resolve_left hne
  · rename_i htake
    simp only [Bool.or_eq_true, List.isEmpty_iff, not_or] at htake
    constructor
    · intro h
      rcases List.mem_append.mp h with h | h
      · exact Or.inl h
      · obtain rfl := List.mem_singleton.mp h
        exact Or.inr ⟨htake.1, rfl⟩
    · rintro (h | ⟨-, rfl⟩)
      · exact List.mem_append_left _ h
      · simp

/-- The columns collected from foreign keys are those that they refer to. -/
theorem mem_collected {keys : List ForeignKey} {found : List (List Text)} {columns : List Text} :
    columns ∈ keys.foldl (fun found key =>
        let columns := namedColumns key.refParts
        if columns.isEmpty || found.contains columns then found else found ++ [columns]) found ↔
      columns ∈ found ∨ columns ≠ [] ∧ ∃ key ∈ keys, namedColumns key.refParts = columns := by
  induction keys generalizing found with
  | nil => simp
  | cons key keys ih =>
      rw [List.foldl_cons, ih]
      simp only [mem_collect, List.exists_mem_cons_iff, and_or_left, or_assoc]

/-- The columns of a table that are listed are those that foreign keys refer to which stay. -/
theorem mem_incoming {name : Text} {columns : List Text} : columns ∈ c.incoming name ↔
    columns ≠ [] ∧ ∃ child ∈ c.old.tables, ∃ newChild, c.new.table? child.name = some newChild ∧
      ∃ key ∈ child.foreignKeys, key.refTable = name ∧
        newChild.foreignKey? key.name = some key ∧ namedColumns key.refParts = columns := by
  rw [incoming, mem_collected]
  simp only [List.not_mem_nil, false_or, and_congr_right_iff]
  intro _
  constructor
  · rintro ⟨key, hkey, rfl⟩
    obtain ⟨child, hchild, hkey⟩ := List.mem_flatMap.mp hkey
    split at hkey
    · cases hkey
    · rename_i newChild hnew
      obtain ⟨hkey, hstays⟩ := List.mem_filter.mp hkey
      simp only [Bool.and_eq_true, beq_iff_eq] at hstays
      exact ⟨child, hchild, newChild, hnew, key, hkey, hstays.1, hstays.2, rfl⟩
  · rintro ⟨child, hchild, newChild, hnew, key, hkey, rfl, hstays, rfl⟩
    refine ⟨key, List.mem_flatMap.mpr ⟨child, hchild, ?_⟩, rfl⟩
    rw [hnew]
    exact List.mem_filter.mpr ⟨hkey, by simp [hstays]⟩

end SchemaComparison

end SchemaMigration
