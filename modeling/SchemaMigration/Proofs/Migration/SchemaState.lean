import SchemaMigration.Migration.Step
import SchemaMigration.Proofs.Migration.TableState

/-!
# Schemas while a migration runs

The steps of a migration are executed one at a time. A state is the tables that are there at a
moment; a step changes one of them, takes one away or adds one.

## Main Definitions

* `SchemaState` - the tables of a schema at a moment
* `SchemaState.apply`, `SchemaState.run` - the state behind one step, and behind several
* `alterations` - the changes that steps make to a table
* `mem_tables_run` - a table behind a run was there before or is created on the way, and went
  through its own changes
* `mem_tables_run_of_mem` - a table that is not dropped stays

## Design Notes

A table is created without its foreign keys, which are steps of their own. Steps on views and
routines leave the tables alone.
-/

namespace SchemaMigration

/-- The tables of a schema at one moment of a migration. -/
structure SchemaState where
  tables : List TableState
  deriving DecidableEq

/-- The state of a table that has just been created. -/
def TableState.created (table : Table) : TableState :=
  { ofTable table with foreignKeys := [] }

namespace SchemaState

/-- The state of a schema that no step has touched. -/
def ofSchema (schema : Schema) : SchemaState where
  tables := schema.tables.map .ofTable

/-- The state behind one step. -/
def apply (s : SchemaState) : Step → SchemaState
  | .alterTable name step =>
    { tables := s.tables.map fun t => if t.name = name then t.apply step.change else t }
  | .dropTable name => { tables := s.tables.filter (·.name != name) }
  | .createTable table => { tables := s.tables ++ [.created table] }
  | _ => s

/-- The state behind several steps, one after the other. -/
def run (s : SchemaState) (steps : List Step) : SchemaState := steps.foldl apply s

@[simp] theorem run_nil (s : SchemaState) : s.run [] = s := rfl

@[simp] theorem run_cons (s : SchemaState) (step : Step) (rest : List Step) :
    s.run (step :: rest) = (s.apply step).run rest := rfl

theorem run_append (s : SchemaState) (front back : List Step) :
    s.run (front ++ back) = (s.run front).run back :=
  List.foldl_append

/-- The names of the tables. -/
def tableNames (s : SchemaState) : List Text := s.tables.map (·.name)

@[simp] theorem ofSchema_tableNames (schema : Schema) :
    (ofSchema schema).tableNames = schema.tables.map (·.name) := by
  rw [tableNames, ofSchema, List.map_map]
  rfl

end SchemaState

/-- The change that a step makes to a table. -/
def Step.alterationOf? (table : Text) : Step → Option TableChange
  | alterTable name step => if name = table then some step.change else none
  | _ => none

/-- The changes that steps make to a table, in their order. -/
def alterations (table : Text) (steps : List Step) : List TableChange :=
  steps.filterMap (·.alterationOf? table)

theorem Step.alterationOf?_eq_some {table : Text} {step : Step} {change : TableChange} :
    step.alterationOf? table = some change ↔
      ∃ found, step = .alterTable table found ∧ found.change = change := by
  cases step with
  | alterTable name found =>
      rw [alterationOf?]
      split
      · rename_i hname
        simp [hname]
      · rename_i hname
        simp [hname]
  | _ => simp [alterationOf?]

/-- What a step does to a table, if it alters it. -/
def Step.tableStep? (table : Text) : Step → Option TableStep
  | alterTable name step => if name = table then some step else none
  | _ => none

/-- What steps do to a table that they alter, in their order. -/
def tableSteps (table : Text) (steps : List Step) : List TableStep :=
  steps.filterMap (·.tableStep? table)

theorem Step.tableStep?_eq_some {table : Text} {step : Step} {found : TableStep} :
    step.tableStep? table = some found ↔ step = .alterTable table found := by
  cases step with
  | alterTable name step =>
      rw [tableStep?]
      split
      · rename_i hname
        simp [hname]
      · rename_i hname
        simp [hname]
  | _ => simp [tableStep?]

theorem mem_tableSteps {table : Text} {steps : List Step} {found : TableStep} :
    found ∈ tableSteps table steps ↔ .alterTable table found ∈ steps := by
  rw [tableSteps, List.mem_filterMap]
  simp [Step.tableStep?_eq_some]

/-- The changes of a table are those of the steps that alter it. -/
theorem alterations_eq_map (table : Text) (steps : List Step) :
    alterations table steps = (tableSteps table steps).map (·.change) := by
  rw [alterations, tableSteps, List.map_filterMap]
  congr 1
  funext step
  cases step with
  | alterTable name found =>
      rw [Step.alterationOf?, Step.tableStep?]
      split <;> rfl
  | _ => rfl

/-- A change of a table comes from a step of that table. -/
theorem mem_alterations {table : Text} {steps : List Step} {change : TableChange} :
    change ∈ alterations table steps ↔
      ∃ step, .alterTable table step ∈ steps ∧ step.change = change := by
  rw [alterations, List.mem_filterMap]
  constructor
  · rintro ⟨step, hstep, hchange⟩
    obtain ⟨found, rfl, hfound⟩ := Step.alterationOf?_eq_some.mp hchange
    exact ⟨found, hstep, hfound⟩
  · rintro ⟨step, hstep, hchange⟩
    exact ⟨_, hstep, Step.alterationOf?_eq_some.mpr ⟨step, rfl, hchange⟩⟩

namespace SchemaState

/-- A table behind one step was there before the step, which it survived, or is created by it. -/
theorem mem_tables_apply {s : SchemaState} {step : Step} {t : TableState}
    (h : t ∈ (s.apply step).tables) :
    (∃ t₀ ∈ s.tables, t = t₀.run (alterations t₀.name [step]) ∧ step ≠ .dropTable t₀.name) ∨
      ∃ table, step = .createTable table ∧ t = .created table := by
  cases step with
  | alterTable name change =>
      obtain ⟨t₀, ht₀, rfl⟩ := List.mem_map.mp h
      refine Or.inl ⟨t₀, ht₀, ?_, by simp⟩
      by_cases hname : t₀.name = name
      · simp [hname, alterations, Step.alterationOf?]
      · simp [hname, Ne.symm hname, alterations, Step.alterationOf?]
  | dropTable name =>
      obtain ⟨ht, hname⟩ := List.mem_filter.mp h
      refine Or.inl ⟨t, ht, rfl, ?_⟩
      intro heq
      simp [Step.dropTable.inj heq] at hname
  | createTable table =>
      rcases List.mem_append.mp h with h | h
      · exact Or.inl ⟨t, h, rfl, by simp⟩
      · exact Or.inr ⟨table, rfl, List.mem_singleton.mp h⟩
  | _ => exact Or.inl ⟨t, h, rfl, by simp⟩

/-- A table behind a run was there before, or was created on the way; it was not dropped since,
and went through its own changes since. -/
theorem mem_tables_run {s : SchemaState} {steps : List Step} {t : TableState}
    (h : t ∈ (s.run steps).tables) :
    (∃ t₀ ∈ s.tables, t = t₀.run (alterations t₀.name steps) ∧ .dropTable t₀.name ∉ steps) ∨
      ∃ front table back, steps = front ++ .createTable table :: back ∧
        t = (TableState.created table).run (alterations table.name back) ∧
          .dropTable table.name ∉ back := by
  induction steps generalizing s with
  | nil => exact Or.inl ⟨t, h, rfl, by simp⟩
  | cons step rest ih =>
      rcases ih h with ⟨t₁, ht₁, rfl, hdrop⟩ | ⟨front, table, back, rfl, hcreated⟩
      · rcases mem_tables_apply ht₁ with ⟨t₀, ht₀, rfl, hstep⟩ | ⟨table, rfl, rfl⟩
        · rw [TableState.run_name] at hdrop ⊢
          refine Or.inl ⟨t₀, ht₀, ?_, ?_⟩
          · rw [← TableState.run_append, alterations, alterations, ← List.filterMap_append]
            rfl
          · simpa [hdrop] using Ne.symm hstep
        · exact Or.inr ⟨[], table, rest, rfl, rfl, hdrop⟩
      · exact Or.inr ⟨step :: front, table, back, rfl, hcreated⟩

/-- A table that a step does not drop goes through the change that the step makes to it. -/
theorem mem_tables_apply_of_mem {s : SchemaState} {step : Step} {t : TableState}
    (ht : t ∈ s.tables) (hdrop : step ≠ .dropTable t.name) :
    t.run (alterations t.name [step]) ∈ (s.apply step).tables := by
  cases step with
  | alterTable name change =>
      refine List.mem_map.mpr ⟨t, ht, ?_⟩
      by_cases hname : t.name = name
      · simp [hname, alterations, Step.alterationOf?]
      · simp [hname, Ne.symm hname, alterations, Step.alterationOf?]
  | dropTable name =>
      refine List.mem_filter.mpr ⟨ht, ?_⟩
      rw [bne_iff_ne, TableState.run_name]
      intro hname
      exact hdrop (by rw [hname])
  | createTable table => exact List.mem_append_left _ ht
  | _ => exact ht

/-- A table that is not dropped stays, and goes through its own changes. -/
theorem mem_tables_run_of_mem {s : SchemaState} {steps : List Step} {t : TableState}
    (ht : t ∈ s.tables) (hdrop : .dropTable t.name ∉ steps) :
    t.run (alterations t.name steps) ∈ (s.run steps).tables := by
  induction steps generalizing s t with
  | nil => exact ht
  | cons step rest ih =>
      rw [List.mem_cons, not_or] at hdrop
      have hstep := mem_tables_apply_of_mem ht (Ne.symm hdrop.1)
      have hrest := ih hstep (by rw [TableState.run_name]; exact hdrop.2)
      rw [TableState.run_name, ← TableState.run_append, alterations, alterations,
        ← List.filterMap_append] at hrest
      exact hrest

/-- So does its name. -/
theorem mem_tableNames_run {s : SchemaState} {steps : List Step} {name : Text}
    (hname : name ∈ s.tableNames) (hdrop : .dropTable name ∉ steps) :
    name ∈ (s.run steps).tableNames := by
  obtain ⟨t, ht, rfl⟩ := List.mem_map.mp hname
  exact List.mem_map.mpr ⟨_, mem_tables_run_of_mem ht hdrop, TableState.run_name _ _⟩

/-- A table that is created and not dropped stays, and goes through its later changes. -/
theorem mem_tables_run_created {s : SchemaState} {steps : List Step} {table : Table}
    (hcreate : .createTable table ∈ steps) (hdrop : .dropTable table.name ∉ steps) :
    ∃ back, back ⊆ steps ∧
      (TableState.created table).run (alterations table.name back) ∈ (s.run steps).tables := by
  obtain ⟨front, back, rfl⟩ := List.append_of_mem hcreate
  have hback : back ⊆ front ++ .createTable table :: back := fun step hstep => by simp [hstep]
  refine ⟨back, hback, ?_⟩
  rw [run_append, run_cons]
  exact mem_tables_run_of_mem (t := .created table) (List.mem_append_right _ (by simp))
    fun hdropped => hdrop (hback hdropped)

/-- So does its name. -/
theorem mem_tableNames_run_created {s : SchemaState} {steps : List Step} {table : Table}
    (hcreate : .createTable table ∈ steps) (hdrop : .dropTable table.name ∉ steps) :
    table.name ∈ (s.run steps).tableNames := by
  obtain ⟨back, -, hmem⟩ := mem_tables_run_created (s := s) hcreate hdrop
  exact List.mem_map.mpr ⟨_, hmem, TableState.run_name _ _⟩

end SchemaState

end SchemaMigration
