import SchemaMigration.Migration.TableComparison
import SchemaMigration.Proofs.KeyedList
import SchemaMigration.Proofs.Migration.PhaseOrder

/-!
# The changes of a table

What a comparison can ask of a table, one kind of change after the other. Every later result
about the run of a migration starts from here and not from the search for steps.

## Main Definitions

* `TableComparison.changes` - the changes of a table in order of execution
* `TableComparison.changesIn` - those of one phase
* `mem_changes` - a change is one of those of its phase
* `dropIndex_mem` and its likes - when a change of a kind is made
-/

namespace SchemaMigration

namespace TableComparison

variable (c : TableComparison)

/-- The changes of a table in order of execution. -/
def changes : List TableChange := Phase.arrange TableChange.phase (c.steps.map (·.change))

/-- The changes of a table that are made in one phase, in their order. -/
def changesIn (p : Phase) : List TableChange :=
  (c.steps.map (·.change)).filter fun change => change.phase = p

/-- A change is one of those of its phase. -/
theorem mem_changes {change : TableChange} :
    change ∈ c.changes ↔ change ∈ c.changesIn change.phase := by
  simp [changes, changesIn]

/-- Changes of a phase are made in it. -/
theorem phase_of_mem_changesIn {p : Phase} {change : TableChange} (h : change ∈ c.changesIn p) :
    change.phase = p :=
  of_decide_eq_true (List.mem_filter.mp h).2

/-- They keep their order in the whole. -/
theorem filter_phase_changes (p : Phase) :
    c.changes.filter (fun change => change.phase = p) = c.changesIn p :=
  Phase.filter_phase_arrange p _

/-- The statements of the changes, in order of execution, are those of the steps. -/
theorem arrange_statements :
    Statement.arrange (c.steps.map (·.statement c.name))
      = (Phase.arrange (·.change.phase) c.steps).map (·.statement c.name) :=
  (Phase.map_arrange (fun _ => rfl) c.steps).symm

/-- So are the changes themselves: the statement at a place executes the change at that place. -/
theorem changes_eq_map : c.changes = (Phase.arrange (·.change.phase) c.steps).map (·.change) :=
  (Phase.map_arrange (fun _ => rfl) c.steps).symm

/-- Changes are made in order of phase. -/
theorem pairwise_changes : c.changes.Pairwise fun a b => a.phase ≤ b.phase :=
  Phase.pairwise_arrange _

/-! ## Phases -/

/-- The groups in which changes are found, with the phase that all changes of a group have. -/
def groups : List (Phase × List TableStep) :=
  [(.dropForeignKey, c.foreignKeyDrops), (.dropForeignKey, c.checkDrops),
   (.changeOptions, c.optionSteps),
   (.removePartitioning, c.partitioningSteps.filter (·.change.phase = .removePartitioning)),
   (.partitionTable, c.partitioningSteps.filter (·.change.phase = .partitionTable)),
   (.guardIndex, c.guardAdditions), (.dropIndex, c.indexDrops),
   (.dropPrimaryKey, c.primaryKeyDrops), (.changeColumn, c.columnChanges),
   (.addColumn, c.columnAdditions), (.addPrimaryKey, c.primaryKeyAdditions),
   (.addIndex, c.indexAdditions), (.dropColumn, c.columnDrops),
   (.addForeignKey, c.foreignKeyAdditions), (.addForeignKey, c.checkAdditions),
   (.dropGuardIndex, c.guardDrops)]

/-- An added column is one of those given. -/
theorem mem_additionsBehind {placed : List Text} {columns : List Column} {step : TableStep}
    (h : step ∈ c.additionsBehind placed columns) :
    ∃ column ∈ columns, ∃ place, step.change
      = .addColumn column.name column.definition (c.inlineKey column) place := by
  induction columns generalizing placed with
  | nil => cases h
  | cons column columns ih =>
      rcases List.mem_cons.mp h with rfl | h
      · exact ⟨column, by simp, _, rfl⟩
      · obtain ⟨other, hother, hstep⟩ := ih h
        exact ⟨other, List.mem_cons_of_mem _ hother, hstep⟩

/-- Every change of a group has the phase of the group. -/
theorem phase_of_mem_groups :
    ∀ group ∈ c.groups, ∀ step ∈ group.2, step.change.phase = group.1 := by
  have hadditions : ∀ step ∈ c.columnAdditions, step.change.phase = .addColumn := by
    intro step hstep
    obtain ⟨column, -, place, hchange⟩ := c.mem_additionsBehind hstep
    rw [hchange]
    rfl
  have hoptions : ∀ step ∈ c.optionSteps, step.change.phase = .changeOptions := by
    intro step hstep
    rw [optionSteps] at hstep
    split at hstep
    · rw [List.mem_singleton.mp hstep]
      rfl
    · cases hstep
  have hdrops : ∀ step ∈ c.primaryKeyDrops, step.change.phase = .dropPrimaryKey := by
    intro step hstep
    rw [primaryKeyDrops] at hstep
    split at hstep
    · obtain ⟨key, -, rfl⟩ := List.mem_map.mp hstep
      rfl
    · cases hstep
  have hkeys : ∀ step ∈ c.primaryKeyAdditions, step.change.phase = .addPrimaryKey := by
    intro step hstep
    rw [primaryKeyAdditions] at hstep
    split at hstep
    · obtain ⟨key, -, rfl⟩ := List.mem_map.mp hstep
      rfl
    · cases hstep
  have hchanges : ∀ step ∈ c.columnChanges, step.change.phase = .changeColumn := by
    intro step hstep
    obtain ⟨column, -, hstep⟩ := List.mem_filterMap.mp hstep
    obtain ⟨new, -, rfl⟩ := Option.map_eq_some_iff.mp hstep
    rfl
  simp only [groups, List.forall_mem_cons]
  refine ⟨?_, ?_, hoptions, ?_, ?_, ?_, ?_, hdrops, hchanges, hadditions, hkeys, ?_, ?_, ?_, ?_, ?_,
    by simp⟩
  all_goals
    intro step hstep
    first
    | exact of_decide_eq_true (List.mem_filter.mp hstep).2
    | obtain ⟨_, -, rfl⟩ := List.mem_map.mp hstep
      rfl

/-- The groups are found one after the other. -/
theorem steps_eq_groups : c.steps = c.groups.flatMap (·.2) := by
  have hsplit : c.partitioningSteps
      = c.partitioningSteps.filter (·.change.phase = .removePartitioning) ++
        c.partitioningSteps.filter (·.change.phase = .partitionTable) := by
    rw [partitioningSteps]
    split
    · rfl
    · split <;> split <;> simp [TableChange.phase]
  rw [steps, hsplit]
  simp [groups]

/-- The changes of a phase are those of the groups of that phase. -/
theorem changesIn_eq (p : Phase) :
    c.changesIn p = ((c.groups.filter (·.1 = p)).flatMap (·.2)).map (·.change) := by
  -- A group is taken as a whole or not at all.
  have hfilter : ∀ groups : List (Phase × List TableStep),
      (∀ group ∈ groups, ∀ step ∈ group.2, step.change.phase = group.1) →
        (groups.flatMap (·.2)).filter (·.change.phase = p)
          = (groups.filter (·.1 = p)).flatMap (·.2) := by
    intro groups hphase
    induction groups with
    | nil => rfl
    | cons group groups ih =>
        obtain ⟨hgroup, hrest⟩ := List.forall_mem_cons.mp hphase
        rw [List.flatMap_cons, List.filter_append, ih hrest]
        by_cases hp : group.1 = p
        · have hall : group.2.filter (·.change.phase = p) = group.2 := by
            rw [List.filter_eq_self]
            intro step hstep
            simpa [hp] using hgroup step hstep
          simp [hp, hall]
        · have hnone : group.2.filter (·.change.phase = p) = [] := by
            rw [List.filter_eq_nil_iff]
            intro step hstep
            simpa [hgroup step hstep] using hp
          simp [hp, hnone]
  rw [changesIn, List.filter_map, ← hfilter c.groups c.phase_of_mem_groups, steps_eq_groups]
  rfl

/-! ## The changes of each phase -/

theorem changesIn_dropForeignKey : c.changesIn .dropForeignKey
    = (c.old.foreignKeys.filter fun key => ! c.keepsForeignKey key).map (.dropForeignKey ·.name) ++
      (c.old.checks.filter fun check => ! c.keepsCheck check).map (.dropCheck ·.name) := by
  simp [changesIn_eq, groups, foreignKeyDrops, checkDrops, Function.comp_def]

theorem changesIn_guardIndex : c.changesIn .guardIndex
    = c.guards.map fun guard => .addGuard guard.name guard.columns := by
  simp [changesIn_eq, groups, guardAdditions, Function.comp_def]

theorem changesIn_dropIndex : c.changesIn .dropIndex
    = (c.old.indexes.filter fun index => ! c.keepsIndex index).map (.dropIndex ·.name) := by
  simp [changesIn_eq, groups, indexDrops, Function.comp_def]

theorem changesIn_dropPrimaryKey : c.changesIn .dropPrimaryKey
    = if c.changesPrimaryKey then c.old.primaryKey.toList.map fun _ => .dropPrimaryKey
      else [] := by
  simp only [changesIn_eq, groups, primaryKeyDrops]
  split <;> simp [Function.comp_def]

theorem changesIn_changeColumn : c.changesIn .changeColumn
    = c.old.columns.filterMap fun column =>
        (c.changedColumn? column).map fun new => .changeColumn column.name new.definition := by
  simp [changesIn_eq, groups, columnChanges, List.map_filterMap, Function.comp_def]

theorem changesIn_addColumn : c.changesIn .addColumn
    = c.columnAdditions.map (·.change) := by
  simp [changesIn_eq, groups]

theorem changesIn_addPrimaryKey : c.changesIn .addPrimaryKey
    = if c.changesPrimaryKey && ! c.addsPrimaryKeyInline then
        c.new.primaryKey.toList.map .addPrimaryKey
      else [] := by
  simp only [changesIn_eq, groups, primaryKeyAdditions]
  split <;> simp [Function.comp_def]

theorem changesIn_addIndex : c.changesIn .addIndex
    = (c.new.indexes.filter fun index =>
        c.old.index? index.name != some index && ! c.addsIndexInline index.name &&
          ! c.adoptsIndex index.name).map .addIndex := by
  simp [changesIn_eq, groups, indexAdditions, Function.comp_def]

theorem changesIn_dropColumn : c.changesIn .dropColumn
    = c.droppedColumns.map (.dropColumn ·.name) := by
  simp [changesIn_eq, groups, columnDrops, Function.comp_def]

theorem changesIn_addForeignKey : c.changesIn .addForeignKey
    = (c.new.foreignKeys.filter fun key =>
        c.old.foreignKey? key.name != some key).map .addForeignKey ++
      (c.new.checks.filter fun check => c.old.check? check.name != some check).map .addCheck := by
  simp [changesIn_eq, groups, foreignKeyAdditions, checkAdditions, Function.comp_def]

theorem changesIn_dropGuardIndex : c.changesIn .dropGuardIndex =
    (c.temporaryGuards.filter fun guard => ! c.losesGuard guard).map (.dropGuard ·.indexName) := by
  simp [changesIn_eq, groups, guardDrops, Function.comp_def]

/-! ## When a change is made -/

variable {c}

theorem dropForeignKey_mem {name : Text} : .dropForeignKey name ∈ c.changes ↔
    ∃ key ∈ c.old.foreignKeys, c.keepsForeignKey key = false ∧ key.name = name := by
  simp [mem_changes, TableChange.phase, changesIn_dropForeignKey, and_assoc]

theorem dropIndex_mem {name : Text} : .dropIndex name ∈ c.changes ↔
    ∃ index ∈ c.old.indexes, c.keepsIndex index = false ∧ index.name = name := by
  simp [mem_changes, TableChange.phase, changesIn_dropIndex, and_assoc]

theorem dropPrimaryKey_mem : .dropPrimaryKey ∈ c.changes ↔
    c.changesPrimaryKey = true ∧ c.old.primaryKey ≠ none := by
  cases hchanges : c.changesPrimaryKey <;> cases hkey : c.old.primaryKey <;>
    simp [mem_changes, TableChange.phase, changesIn_dropPrimaryKey, hchanges, hkey]

theorem addGuard_mem {name : Option Text} {columns : List Text} :
    .addGuard name columns ∈ c.changes ↔
      ∃ guard ∈ c.guards, guard.name = name ∧ guard.columns = columns := by
  simp [mem_changes, TableChange.phase, changesIn_guardIndex]

theorem changeColumn_mem {name definition : Text} : .changeColumn name definition ∈ c.changes ↔
    ∃ column ∈ c.old.columns, ∃ new, c.changedColumn? column = some new ∧
      column.name = name ∧ new.definition = definition := by
  simp [mem_changes, TableChange.phase, changesIn_changeColumn]

/-- The added columns are those that only the new table has. -/
theorem mem_addedColumns {column : Column} : column ∈ c.addedColumns ↔
    column ∈ c.new.columns ∧ c.old.column? column.name = none := by
  cases hauto : column.isAutoIncrement <;> simp [addedColumns, hauto]

/-- Every column of the new table is an old or an added one. -/
theorem newColumnNames_subset :
    c.new.columnNames ⊆ c.old.columnNames ++ c.addedColumns.map (·.name) := by
  intro x hx
  obtain ⟨column, hcolumn, rfl⟩ := List.mem_map.mp hx
  rw [List.mem_append]
  by_cases hold : column.name ∈ c.old.columnNames
  · exact Or.inl hold
  · exact Or.inr (List.mem_map_of_mem (mem_addedColumns.mpr ⟨hcolumn, find?_eq_none_iff.mpr hold⟩))

theorem addColumn_mem {name definition : Text} {key : InlineKey} {place : Placement}
    (h : .addColumn name definition key place ∈ c.changes) :
    ∃ column ∈ c.addedColumns,
      column.name = name ∧ column.definition = definition ∧ c.inlineKey column = key := by
  rw [mem_changes, TableChange.phase, changesIn_addColumn] at h
  obtain ⟨step, hstep, hchange⟩ := List.mem_map.mp h
  obtain ⟨column, hcolumn, _, hadd⟩ := c.mem_additionsBehind hstep
  rw [hadd] at hchange
  obtain ⟨hname, hdefinition, hkey, -⟩ := TableChange.addColumn.inj hchange
  exact ⟨column, hcolumn, hname, hdefinition, hkey⟩

/-- Every column that only the new table has is added. -/
theorem exists_addColumn_mem {column : Column} (h : column ∈ c.addedColumns) :
    ∃ place, .addColumn column.name column.definition (c.inlineKey column) place ∈ c.changes := by
  have hbehind : ∀ (columns : List Column) (placed : List Text), column ∈ columns →
      ∃ place, .addColumn column.name column.definition (c.inlineKey column) place ∈
        (c.additionsBehind placed columns).map (·.change) := by
    intro columns
    induction columns with
    | nil => exact fun _ h => by cases h
    | cons first rest ih =>
        intro placed h
        rcases List.mem_cons.mp h with rfl | h
        · exact ⟨_, List.mem_map_of_mem (List.mem_cons_self ..)⟩
        · obtain ⟨place, hplace⟩ := ih (placed ++ [first.name]) h
          exact ⟨place, List.mem_cons_of_mem _ hplace⟩
  obtain ⟨place, hplace⟩ := hbehind c.addedColumns c.old.columnNames h
  refine ⟨place, ?_⟩
  rw [mem_changes, TableChange.phase, changesIn_addColumn]
  exact hplace

theorem addPrimaryKey_mem {key : PrimaryKey} : .addPrimaryKey key ∈ c.changes ↔
    c.changesPrimaryKey = true ∧ c.addsPrimaryKeyInline = false ∧ c.new.primaryKey = some key := by
  cases hchanges : c.changesPrimaryKey <;> cases hinline : c.addsPrimaryKeyInline <;>
    simp [mem_changes, TableChange.phase, changesIn_addPrimaryKey, hchanges, hinline]

theorem addIndex_mem {index : Index} : .addIndex index ∈ c.changes ↔
    index ∈ c.new.indexes ∧ c.old.index? index.name ≠ some index ∧
      c.addsIndexInline index.name = false ∧ c.adoptsIndex index.name = false := by
  simp [mem_changes, TableChange.phase, changesIn_addIndex, and_assoc]

/-- The columns that go away are those that only the old table has. -/
theorem dropsColumn_iff {name : Text} :
    c.dropsColumn name = true ↔ name ∈ c.old.columnNames ∧ name ∉ c.new.columnNames := by
  simp [dropsColumn, Table.column?, Table.columnNames]

theorem dropColumn_mem {name : Text} : .dropColumn name ∈ c.changes ↔
    ∃ column ∈ c.old.columns, c.dropsColumn column.name = true ∧ column.name = name := by
  simp [mem_changes, TableChange.phase, changesIn_dropColumn, droppedColumns, and_assoc]

theorem addForeignKey_mem {key : ForeignKey} : .addForeignKey key ∈ c.changes ↔
    key ∈ c.new.foreignKeys ∧ c.old.foreignKey? key.name ≠ some key := by
  simp [mem_changes, TableChange.phase, changesIn_addForeignKey]

theorem dropGuard_mem {name : Text} : .dropGuard name ∈ c.changes ↔
    ∃ guard ∈ c.temporaryGuards, c.losesGuard guard = false ∧ guard.indexName = name := by
  simp [mem_changes, TableChange.phase, changesIn_dropGuardIndex, and_assoc]

end TableComparison

end SchemaMigration
