import SchemaMigration.Proofs.Migration.SchemaChanges

/-!
# Options that leave statements out

Two switches confine a migration: one keeps what the second schema does not have, the other also
leaves out what the first schema does not have. Neither has another effect. The statements that
remain are those of the whole migration, in its order, and a confined comparison breaks off only
where the whole one does.

## Main Definitions

* `SchemaComparison.keepingMissing`, `SchemaComparison.onBoth` - a comparison with a switch set
* `Statement.dropsObject`, `Statement.addsObject` - what the switches leave out
* `SchemaComparison.keysNewTable` - foreign keys of created tables, which come in statements of
  their own
* `statements_confined` - each switch only filters
-/

namespace SchemaMigration

/-- Whether an action changes a table that is there. -/
def MigrationAction.altersTable : MigrationAction → Bool
  | dropTable | addTable | refTable | addView | dropView | changeView | addRoutine | dropRoutine
  | changeRoutine => false
  | _ => true

namespace Statement

/-- Whether a statement drops a table, a view or a routine. -/
def dropsObject (statement : Statement) : Bool :=
  [MigrationAction.dropTable, .dropView, .dropRoutine].any (·.word == statement.action)

/-- Whether a statement adds a table, a view or a routine. -/
def addsObject (statement : Statement) : Bool :=
  [MigrationAction.addTable, .addView, .addRoutine].any (·.word == statement.action)

end Statement

namespace Event

/-- The first of two parts that breaks off decides. -/
theorem breakage?_append (front back : List Event) :
    breakage? (front ++ back) = (breakage? front).or (breakage? back) := by
  induction front with
  | nil => rfl
  | cons event front ih =>
      cases event with
      | note _ => exact ih
      | «break» _ => rfl

/-- Notes break nothing off. -/
@[simp] theorem breakage?_ofJournal (journal : Journal) : breakage? (ofJournal journal) = none := by
  induction journal with
  | nil => rfl
  | cons _ _ ih => exact ih

end Event

/-- An action on a table that is there is named like none on a whole object. -/
theorem MigrationAction.word_notMem {action : MigrationAction} (h : action.altersTable = true) :
    [dropTable, dropView, dropRoutine].any (·.word == action.word) = false ∧
      [addTable, addView, addRoutine].any (·.word == action.word) = false := by
  cases action <;> first | exact ⟨rfl, rfl⟩ | cases h

namespace TableComparison

/-- Every step that changes or adds a column changes a table that is there. -/
theorem altersTable_of_mem_columnSteps (c : TableComparison) (placed : List Text)
    (columns : List Column) :
    ∀ step ∈ c.columnChanges ++ c.additionsBehind placed columns,
      step.action.altersTable = true := by
  rw [List.forall_mem_append]
  constructor
  · intro step hstep
    obtain ⟨column, -, hstep⟩ := List.mem_filterMap.mp hstep
    obtain ⟨new, -, rfl⟩ := Option.map_eq_some_iff.mp hstep
    rfl
  · induction columns generalizing placed with
    | nil => exact fun _ h => by cases h
    | cons column columns ih => exact List.forall_mem_cons.mpr ⟨rfl, ih _⟩

/-- Every step on the primary key changes a table that is there. -/
theorem altersTable_of_mem_primaryKeySteps (c : TableComparison) :
    ∀ step ∈ c.primaryKeyDrops ++ c.primaryKeyAdditions, step.action.altersTable = true := by
  rw [List.forall_mem_append, primaryKeyDrops, primaryKeyAdditions]
  constructor
  all_goals
    split
    · rw [List.forall_mem_map]
      intro key _
      dsimp only
      split <;> rfl
    · simp

/-- Every step on the options or the partitioning changes a table that is there. -/
theorem altersTable_of_mem_optionSteps (c : TableComparison) :
    ∀ step ∈ c.optionSteps ++ c.partitioningSteps, step.action.altersTable = true := by
  rw [optionSteps, partitioningSteps]
  repeat' split
  all_goals simp [MigrationAction.altersTable]

/-- Every step of a comparison of tables changes a table that is there. -/
theorem altersTable_of_mem_steps (c : TableComparison) :
    ∀ step ∈ c.steps, step.action.altersTable = true := by
  obtain ⟨hchanges, hadditions⟩ :=
    List.forall_mem_append.mp (c.altersTable_of_mem_columnSteps c.old.columnNames c.addedColumns)
  obtain ⟨hdrops, hkeys⟩ := List.forall_mem_append.mp c.altersTable_of_mem_primaryKeySteps
  obtain ⟨hoptions, hpartitioning⟩ := List.forall_mem_append.mp c.altersTable_of_mem_optionSteps
  simp only [steps, List.forall_mem_append, and_assoc]
  refine ⟨?_, ?_, hoptions, hpartitioning, ?_, ?_, hdrops, hchanges, hadditions, hkeys,
    ?_, ?_, ?_, ?_, ?_⟩
  all_goals
    intro step hstep
    obtain ⟨_, -, rfl⟩ := List.mem_map.mp hstep
    dsimp only
    first
    | rfl
    | split <;> rfl

end TableComparison

/-! ## What the switches leave alone -/

/-- Options with the switches for what only one schema has set as given. -/
def Options.withSwitches (options : Options) (onlyBoth keepOldTables : Bool) : Options :=
  { options with onlyBoth, keepOldTables }

namespace TableComparison

variable (c : TableComparison) (both keepOld : Bool)

/-- The comparison with the switches set as given. -/
def withSwitches : TableComparison := { c with options := c.options.withSwitches both keepOld }

/-- Added columns are found without a look at the switches. -/
theorem additionsBehind_withSwitches (placed : List Text) (columns : List Column) :
    (c.withSwitches both keepOld).additionsBehind placed columns
      = c.additionsBehind placed columns := by
  induction columns generalizing placed with
  | nil => rfl
  | cons column columns ih =>
      rw [additionsBehind, additionsBehind, ih]
      rfl

/-- So are all steps on a table. -/
theorem steps_withSwitches : (c.withSwitches both keepOld).steps = c.steps := by
  rw [steps, steps, columnAdditions, columnAdditions, additionsBehind_withSwitches]
  rfl

end TableComparison

namespace SchemaComparison

/-- The comparison with the switches set as given. -/
def withSwitches (c : SchemaComparison) (both keepOld : Bool) : SchemaComparison :=
  { c with options := c.options.withSwitches both keepOld }

variable (c : SchemaComparison) {both keepOld : Bool}

/-- The comparison that drops nothing for being missing from the second schema. -/
def keepingMissing : SchemaComparison :=
  { c with options := { c.options with keepOldTables := true } }

/-- The comparison of what both schemas have. -/
def onBoth : SchemaComparison := { c with options := { c.options with onlyBoth := true } }

/-- Whether a statement adds a foreign key to a table that the first schema does not have. -/
def keysNewTable (statement : Statement) : Bool :=
  statement.action == MigrationAction.addForeignKey.word && (c.old.table? statement.name).isNone

variable {c}

/-- Under other switches the same tables are compared. -/
theorem tableComparison?_withSwitches (table : Table) :
    (c.withSwitches both keepOld).tableComparison? table
      = (c.tableComparison? table).map (·.withSwitches both keepOld) := by
  rw [tableComparison?, tableComparison?, Option.map_map]
  rfl

/-- The same is done to them. -/
theorem tableChanges_withSwitches :
    (c.withSwitches both keepOld).tableChanges = c.tableChanges := by
  rw [tableChanges, tableChanges]
  refine List.flatMap_congr ?_
  intro table _
  rw [tableComparison?_withSwitches]
  cases c.tableComparison? table with
  | none => rfl
  | some comparison => simp only [Option.map_some, TableComparison.steps_withSwitches]

/-- And the same is reported. -/
theorem tableEvents_withSwitches (both keepOld : Bool) :
    (c.withSwitches both keepOld).tableEvents = c.tableEvents := by
  rw [tableEvents, tableEvents]
  refine List.flatMap_congr ?_
  intro table _
  rw [tableComparison?_withSwitches]
  cases c.tableComparison? table with
  | none => rfl
  | some comparison =>
      have hselection : (c.withSwitches both keepOld).options.selection table.name
          = c.options.selection table.name := rfl
      rw [hselection]
      cases c.options.selection table.name with
      | error breakage => rfl
      | ok selected => cases selected <;> rfl

/-! ## What the switches leave out -/

section Filter

variable {keep : Step → Bool}

/-- Under either switch nothing is dropped for being missing. -/
theorem dropsMissing_withSwitches (hmissing : (both || keepOld) = true) :
    (c.withSwitches both keepOld).options.dropsMissing = false := by
  simp [withSwitches, Options.withSwitches, Options.dropsMissing, hmissing]

/-- Steps that drop tables are left out. -/
theorem filter_tableDrops (hdrop : ∀ name, keep (.dropTable name) = false) :
    c.tableDrops.filter keep = [] := by
  rw [List.filter_eq_nil_iff, tableDrops]
  intro step hstep
  split at hstep
  · obtain ⟨name, -, rfl⟩ := List.mem_map.mp hstep
    simp [hdrop]
  · cases hstep

/-- Changed routines stay, and missing ones are left alone. -/
theorem filter_routineChanges (hmissing : (both || keepOld) = true)
    (hchange : ∀ old new, keep (.replaceRoutine old new) = true)
    (hdrop : ∀ routine, keep (.dropRoutine routine) = false) :
    c.routineChanges.filter keep = (c.withSwitches both keepOld).routineChanges := by
  rw [routineChanges, routineChanges, List.filter_flatMap]
  refine List.flatMap_congr ?_
  intro routine _
  cases hnew : c.new.routine? routine.key with
  | none =>
      rw [dropsMissing_withSwitches hmissing]
      by_cases hold : c.options.dropsMissing = true <;> simp [withSwitches, hnew, hold, hdrop]
  | some new =>
      simp only [withSwitches, hnew]
      split <;> simp [hchange]

/-- Changed views stay, and missing ones are left alone. -/
theorem filter_viewChanges (hmissing : (both || keepOld) = true)
    (hchange : ∀ view, keep (.alterView view) = true)
    (hdrop : ∀ name, keep (.dropView name) = false) :
    c.viewChanges.filter keep = (c.withSwitches both keepOld).viewChanges := by
  rw [viewChanges, viewChanges, List.filter_flatMap]
  refine List.flatMap_congr ?_
  intro view _
  cases hnew : c.new.view? view.name with
  | none =>
      rw [dropsMissing_withSwitches hmissing]
      by_cases hold : c.options.dropsMissing = true <;> simp [withSwitches, hnew, hold, hdrop]
  | some new =>
      simp only [withSwitches, hnew]
      split <;> simp [hchange]

/-- The steps that remain are those on objects of both schemas, and the given additions. -/
theorem filter_foundSteps (both keepOld : Bool) (hmissing : (both || keepOld) = true)
    (hdrop : ∀ step, step.statement.dropsObject = true → keep step = false)
    (hchange : ∀ step ∈ c.tableChanges, keep step = true)
    (hroutine : ∀ old new, keep (.replaceRoutine old new) = true)
    (hview : ∀ view, keep (.alterView view) = true)
    (hcreate : (c.tableCreations ++ c.routineCreations ++ c.viewCreations).filter keep
      = (c.withSwitches both keepOld).tableCreations ++
        (c.withSwitches both keepOld).routineCreations ++
        (c.withSwitches both keepOld).viewCreations) :
    c.foundSteps.filter keep = (c.withSwitches both keepOld).foundSteps := by
  have hdrops : (c.withSwitches both keepOld).tableDrops = [] := by
    simp [tableDrops, dropsMissing_withSwitches hmissing]
  simp only [List.filter_append, List.append_assoc] at hcreate
  simp only [foundSteps, List.filter_append, List.append_assoc, hcreate]
  rw [List.filter_eq_self.mpr hchange, tableChanges_withSwitches, hdrops,
    filter_tableDrops fun name => hdrop _ rfl,
    filter_routineChanges hmissing hroutine fun routine => hdrop _ rfl,
    filter_viewChanges hmissing hview fun name => hdrop _ rfl]

end Filter

/-- Filtered steps give the statements that are not filtered out, in their order. -/
theorem filter_statements (keep : Statement → Bool) : c.statements.filter keep
    = (Phase.arrange Step.phase (c.foundSteps.filter fun step => keep step.statement)).map
        Step.statement := by
  rw [statements, steps, List.filter_map, Phase.filter_arrange]
  rfl

/-- A table that both schemas have is only altered, and it is in the first schema. -/
theorem statement_of_mem_tableChanges {step : Step} (h : step ∈ c.tableChanges) :
    step.statement.dropsObject = false ∧ step.statement.addsObject = false ∧
      c.keysNewTable step.statement = false := by
  obtain ⟨table, htable, h⟩ := List.mem_flatMap.mp h
  have hold : (c.old.table? table.name).isNone = false := by
    rw [Option.isNone_eq_false_iff, Schema.table?, List.find?_isSome]
    exact ⟨table, (List.mem_filter.mp htable).1, by simp⟩
  cases hcomparison : c.tableComparison? table with
  | none => simp [hcomparison] at h
  | some comparison =>
      simp only [hcomparison] at h
      obtain ⟨found, hfound, rfl⟩ := List.mem_map.mp h
      obtain ⟨hdrops, hadds⟩ :=
        MigrationAction.word_notMem (comparison.altersTable_of_mem_steps found hfound)
      exact ⟨hdrops, hadds, by simp [keysNewTable, Step.statement, TableStep.statement, hold]⟩

/-- What is created is only added: objects, and foreign keys of tables that are new. -/
theorem statement_of_mem_creations {step : Step}
    (h : step ∈ c.tableCreations ++ c.routineCreations ++ c.viewCreations) :
    step.statement.dropsObject = false ∧
      (step.statement.addsObject || c.keysNewTable step.statement) = true := by
  simp only [List.mem_append] at h
  rcases h with (h | h) | h
  · rcases List.mem_append.mp h with h | h
    · obtain ⟨table, -, rfl⟩ := List.mem_map.mp h
      exact ⟨rfl, rfl⟩
    · obtain ⟨table, htable, h⟩ := List.mem_flatMap.mp h
      obtain ⟨key, -, rfl⟩ := List.mem_map.mp h
      refine ⟨rfl, ?_⟩
      simp [keysNewTable, Step.statement, TableStep.statement,
        (new_of_mem_createdTables htable).2]
  · obtain ⟨routine, rfl⟩ := exists_of_mem_routineCreations h
    exact ⟨rfl, rfl⟩
  · obtain ⟨view, rfl⟩ := exists_of_mem_viewCreations h
    exact ⟨rfl, rfl⟩

/-- Without drops remain the steps of the comparison that keeps what is missing. -/
theorem filter_foundSteps_keepingMissing :
    c.foundSteps.filter (fun step => ! step.statement.dropsObject)
      = c.keepingMissing.foundSteps := by
  refine filter_foundSteps c.options.onlyBoth true (by simp) ?_ ?_ ?_ ?_ ?_
  · intro step hdrops
    simp [hdrops]
  · intro step hstep
    simp [(statement_of_mem_tableChanges hstep).1]
  · exact fun _ _ => rfl
  · exact fun _ => rfl
  · refine List.filter_eq_self.mpr ?_
    intro step hstep
    simp [(statement_of_mem_creations hstep).1]

/-- Without drops and additions remain the steps of the comparison of what both schemas have. -/
theorem filter_foundSteps_onBoth :
    c.foundSteps.filter (fun step => ! (step.statement.dropsObject || step.statement.addsObject ||
      c.keysNewTable step.statement)) = c.onBoth.foundSteps := by
  refine filter_foundSteps true c.options.keepOldTables (by simp) ?_ ?_ ?_ ?_ ?_
  · intro step hdrops
    simp [hdrops]
  · intro step hstep
    obtain ⟨hdrops, hadds, hkeys⟩ := statement_of_mem_tableChanges hstep
    simp [hdrops, hadds, hkeys]
  · exact fun _ _ => rfl
  · exact fun _ => rfl
  · refine List.filter_eq_nil_iff.mpr ?_
    intro step hstep
    obtain ⟨-, hadded⟩ := statement_of_mem_creations hstep
    rw [Bool.or_assoc, hadded]
    simp

/-- What breaks a comparison off lies in its tables. -/
theorem breakage?_events : Event.breakage? c.events
    = (Event.breakage? c.tableEvents).or (Event.breakage? c.creationEvents) := by
  simp [events, Event.breakage?, Event.breakage?_append]

end SchemaComparison

/-- Each switch only filters: the statements that it leaves are those of the whole migration
without drops, and without additions too if only what both schemas have is compared. They are
unchanged and in the same order. What breaks a confined comparison off breaks the whole one off in
the same way. -/
theorem SchemaComparison.statements_confined (c : SchemaComparison) :
    c.keepingMissing.statements
      = c.statements.filter (fun statement => ! statement.dropsObject) ∧
    c.onBoth.statements = c.statements.filter (fun statement =>
      ! (statement.dropsObject || statement.addsObject || c.keysNewTable statement)) ∧
    Event.breakage? c.keepingMissing.events = Event.breakage? c.events ∧
    Event.breakage? c.events
      = (Event.breakage? c.onBoth.events).or (Event.breakage? c.creationEvents) := by
  have hkept : c.keepingMissing.tableEvents = c.tableEvents :=
    tableEvents_withSwitches c.options.onlyBoth true
  have hboth : c.onBoth.tableEvents = c.tableEvents :=
    tableEvents_withSwitches true c.options.keepOldTables
  have hnone : c.onBoth.creationEvents = [] := rfl
  refine ⟨?_, ?_, ?_, ?_⟩
  · rw [filter_statements, filter_foundSteps_keepingMissing]
    rfl
  · rw [filter_statements, filter_foundSteps_onBoth]
    rfl
  · rw [breakage?_events, breakage?_events, hkept]
    rfl
  · rw [breakage?_events, breakage?_events, hboth, hnone]
    simp [Event.breakage?]

end SchemaMigration
