import Mathlib.Data.List.Basic
import SchemaMigration.Migration.TableChange
import SchemaMigration.Table.Options
import SchemaMigration.Proofs.Migration.PhaseOrder

/-!
# Tables while a migration runs

The changes of a table are executed one at a time. A state is what the server holds of the
table at a moment; a change turns one state into the next, and the server refuses a change
that adds what is there, drops what is not, or names a column that is absent.

## Main Definitions

* `TableState` - the columns, keys, constraints and options of a table at a moment
* `TableState.apply`, `TableState.run` - the state behind one change, and behind several
* `TableState.Accepts` - what the server insists on before a change
* `TableState.Serves` - some key of the table starts with given columns
* `TableState.LeadsKey` - some key of the table starts with a given column

## Design Notes

The effect of a change is total, so that a state exists behind every list of changes; whether
the server would have let a change pass is said by `Accepts` alone. Keys are held with their
parts as written, and a part belongs to the column that it names, so a column that is dropped
takes its parts out of every key, and a key that loses its last part is gone.
-/

namespace SchemaMigration

/-- What the server holds of a table at one moment of a migration. -/
structure TableState where
  name : Text
  /-- The names of the columns with their current definitions, in order. -/
  columns : List (Text × Text)
  indexes : List Index
  primaryKey : Option PrimaryKey
  foreignKeys : List ForeignKey
  checks : List CheckConstraint
  baseOptions : Text
  partitioning : Text
  deriving DecidableEq

/-- The index that a guard clause creates. Without a name only the first column is given, and
the server names the index after it. -/
def guardIndex (name : Option Text) (columns : List Text) : Index :=
  match name with
  | none => { name := columns.headD [], kind := .plain, parts := [columns.headD []], options := [] }
  | some name => { name, kind := .plain, parts := columns, options := [] }

/-- Key parts without those that name a column. -/
def partsWithout (column : Text) (parts : List Text) : List Text :=
  parts.filter (columnName? · != some column)

/-- An index behind the removal of a column; it is gone if all its parts named that column. -/
def Index.withoutColumn? (column : Text) (index : Index) : Option Index :=
  let parts := partsWithout column index.parts
  if parts = [] ∧ index.parts ≠ [] then none else some { index with parts }

/-- A primary key behind the removal of a column; it is gone if all its parts named it. -/
def PrimaryKey.withoutColumn? (column : Text) (key : PrimaryKey) : Option PrimaryKey :=
  let parts := partsWithout column key.parts
  if parts = [] ∧ key.parts ≠ [] then none else some { key with parts }

/-- The index that a new column of the given name brings. -/
def InlineKey.index? (column : Text) : InlineKey → Option Index
  | uniqueKey => some { name := column, kind := .unique, parts := [column], options := [] }
  | andIndex index => some index
  | _ => Option.none

/-- The primary key that a new column of the given name brings. -/
def InlineKey.primaryKey? (column : Text) : InlineKey → Option PrimaryKey
  | primaryKey => some { parts := [column], options := [] }
  | andPrimaryKey key => some key
  | _ => Option.none

/-- Columns with a new one behind the first of the given name, or at the end without one. -/
def insertAfter (previous : Text) (column : Text × Text) : List (Text × Text) → List (Text × Text)
  | [] => [column]
  | first :: rest =>
    if first.1 = previous then first :: column :: rest
    else first :: insertAfter previous column rest

/-- Columns with a new one at its place. -/
def Placement.insert (column : Text × Text) (columns : List (Text × Text)) :
    Placement → List (Text × Text)
  | first => column :: columns
  | last => columns ++ [column]
  | after previous => insertAfter previous column columns

/-- A placement adds a column and keeps the others. -/
theorem mem_insert {column e : Text × Text} {columns : List (Text × Text)} {place : Placement} :
    e ∈ place.insert column columns ↔ e = column ∨ e ∈ columns := by
  have hafter : ∀ previous, e ∈ insertAfter previous column columns ↔ e = column ∨ e ∈ columns := by
    intro previous
    induction columns with
    | nil => simp [insertAfter]
    | cons first rest ih =>
        rw [insertAfter]
        split
        · simp [or_left_comm]
        · simp [ih, or_left_comm]
  cases place with
  | first => simp [Placement.insert]
  | last => simp [Placement.insert, or_comm]
  | after previous => exact hafter previous

/-- So it is with their names. -/
theorem mem_map_insert {column : Text × Text} {columns : List (Text × Text)} {place : Placement}
    {name : Text} : name ∈ (place.insert column columns).map (·.1) ↔
      name = column.1 ∨ name ∈ columns.map (·.1) := by
  rw [List.mem_map, List.mem_map]
  constructor
  · rintro ⟨e, he, rfl⟩
    rcases mem_insert.mp he with rfl | he
    · exact Or.inl rfl
    · exact Or.inr ⟨e, he, rfl⟩
  · rintro (rfl | ⟨e, he, rfl⟩)
    · exact ⟨column, mem_insert.mpr (Or.inl rfl), rfl⟩
    · exact ⟨e, mem_insert.mpr (Or.inr he), rfl⟩

namespace TableState

/-- The state of a table that no change has touched. -/
def ofTable (table : Table) : TableState where
  name := table.name
  columns := table.columns.map fun column => (column.name, column.definition)
  indexes := table.indexes
  primaryKey := table.primaryKey
  foreignKeys := table.foreignKeys
  checks := table.checks
  baseOptions := table.baseOptions
  partitioning := table.partitioning

/-- The names of the columns, in order. -/
def columnNames (s : TableState) : List Text := s.columns.map (·.1)

/-- The names of the indexes. -/
def indexNames (s : TableState) : List Text := s.indexes.map (·.name)

/-- The names of the foreign keys. -/
def foreignKeyNames (s : TableState) : List Text := s.foreignKeys.map (·.name)

/-- The names of the check constraints. -/
def checkNames (s : TableState) : List Text := s.checks.map (·.name)

/-! ## Changes -/

/-- The state behind one change. -/
def apply (s : TableState) : TableChange → TableState
  | .dropForeignKey name => { s with foreignKeys := s.foreignKeys.filter (·.name != name) }
  | .dropCheck name => { s with checks := s.checks.filter (·.name != name) }
  | .changeOptions _ options => { s with baseOptions := options }
  | .removePartitioning => { s with partitioning := [] }
  | .setPartitioning clause => { s with partitioning := clause }
  | .addGuard name columns => { s with indexes := s.indexes ++ [guardIndex name columns] }
  | .dropIndex name => { s with indexes := s.indexes.filter (·.name != name) }
  | .dropPrimaryKey => { s with primaryKey := none }
  | .changeColumn name definition =>
    { s with columns := s.columns.map fun column =>
        if column.1 = name then (name, definition) else column }
  | .addColumn name definition key place =>
    { s with
      columns := place.insert (name, definition) s.columns
      indexes := s.indexes ++ (key.index? name).toList
      primaryKey := (key.primaryKey? name).or s.primaryKey }
  | .addPrimaryKey key => { s with primaryKey := some key }
  | .addIndex index => { s with indexes := s.indexes ++ [index] }
  | .dropColumn name =>
    { s with
      columns := s.columns.filter (·.1 != name)
      indexes := s.indexes.filterMap (·.withoutColumn? name)
      primaryKey := s.primaryKey.bind (·.withoutColumn? name) }
  | .addForeignKey key => { s with foreignKeys := s.foreignKeys ++ [key] }
  | .addCheck check => { s with checks := s.checks ++ [check] }
  | .dropGuard name => { s with indexes := s.indexes.filter (·.name != name) }

/-- The state behind several changes, one after the other. -/
def run (s : TableState) (changes : List TableChange) : TableState := changes.foldl apply s

/-- Every column that key parts name is there. -/
def HasColumns (s : TableState) (parts : List Text) : Prop :=
  ∀ column ∈ namedColumns parts, column ∈ s.columnNames

/-- An index may be added: its name is free, and the columns that it names are there. -/
def AcceptsIndex (s : TableState) (index : Index) : Prop :=
  index.name ∉ s.indexNames ∧ s.HasColumns index.parts

/-- A primary key may be added: there is none, and the columns that it names are there. -/
def AcceptsPrimaryKey (s : TableState) (key : PrimaryKey) : Prop :=
  s.primaryKey = none ∧ s.HasColumns key.parts

/-- The column that a placement names is there. -/
def AcceptsPlacement (s : TableState) : Placement → Prop
  | .first | .last => True
  | .after previous => previous ∈ s.columnNames

/-- What the server insists on before a change: what is added is not there yet, what is
dropped is there, and every column that is named is there. The key of a new column may name
that column. -/
def Accepts (s : TableState) : TableChange → Prop
  | .dropForeignKey name => name ∈ s.foreignKeyNames
  | .dropCheck name => name ∈ s.checkNames
  | .changeOptions _ _ | .removePartitioning | .setPartitioning _ => True
  | .addGuard name columns => s.AcceptsIndex (guardIndex name columns)
  | .dropIndex name | .dropGuard name => name ∈ s.indexNames
  | .dropPrimaryKey => s.primaryKey ≠ none
  | .changeColumn name _ => name ∈ s.columnNames
  | .addColumn name definition key place =>
    let wider := { s with columns := place.insert (name, definition) s.columns }
    name ∉ s.columnNames ∧ s.AcceptsPlacement place ∧
      (∀ index ∈ key.index? name, wider.AcceptsIndex index) ∧
      ∀ primaryKey ∈ key.primaryKey? name, wider.AcceptsPrimaryKey primaryKey
  | .addPrimaryKey key => s.AcceptsPrimaryKey key
  | .addIndex index => s.AcceptsIndex index
  | .dropColumn name => name ∈ s.columnNames
  | .addForeignKey key => key.name ∉ s.foreignKeyNames ∧ s.HasColumns key.parts
  | .addCheck check => check.name ∉ s.checkNames

/-! ## Keys -/

/-- The leading columns of every index and of the primary key. -/
def keyLeads (s : TableState) : List (List Text) :=
  s.indexes.map (fun index => leadingColumns index.parts) ++
    s.primaryKey.toList.map fun key => leadingColumns key.parts

/-- Some key starts with the given columns, of which there is at least one. -/
def Serves (s : TableState) (columns : List Text) : Prop :=
  columns ≠ [] ∧ ∃ lead ∈ s.keyLeads, columns <+: lead

/-- Some key starts with the given column. -/
def LeadsKey (s : TableState) (column : Text) : Prop :=
  ∃ lead ∈ s.keyLeads, lead.head? = some column

/-- Every column that numbers its rows by its current definition is the first of some key. -/
def IndexesAutoIncrement (s : TableState) : Prop :=
  ∀ column ∈ s.columns, mentionsAutoIncrement column.2 → s.LeadsKey column.1

instance (s : TableState) (columns : List Text) : Decidable (s.Serves columns) :=
  inferInstanceAs (Decidable (columns ≠ [] ∧ ∃ lead ∈ s.keyLeads, columns <+: lead))

instance (s : TableState) (column : Text) : Decidable (s.LeadsKey column) :=
  inferInstanceAs (Decidable (∃ lead ∈ s.keyLeads, lead.head? = some column))

instance (s : TableState) : Decidable s.IndexesAutoIncrement :=
  inferInstanceAs (Decidable (∀ column ∈ s.columns,
    mentionsAutoIncrement column.2 → s.LeadsKey column.1))

/-! ## Laws of runs -/

@[simp] theorem run_nil (s : TableState) : s.run [] = s := rfl

@[simp] theorem run_cons (s : TableState) (change : TableChange) (rest : List TableChange) :
    s.run (change :: rest) = (s.apply change).run rest := rfl

theorem run_append (s : TableState) (front back : List TableChange) :
    s.run (front ++ back) = (s.run front).run back :=
  List.foldl_append

/-- What holds at first and is kept by every change of a run holds at its end. -/
theorem run_induction {P : TableState → Prop} {changes : List TableChange} {s : TableState}
    (hs : P s) (keep : ∀ change ∈ changes, ∀ t : TableState, P t → P (t.apply change)) :
    P (s.run changes) := by
  induction changes generalizing s with
  | nil => exact hs
  | cons change rest ih =>
      refine ih (keep change (by simp) s hs) ?_
      intro later hlater
      exact keep later (List.mem_cons_of_mem _ hlater)

/-- What some change of a run brings about in every state, and no change of its phase or a later
one undoes, holds at the end of a run in order of phase. -/
theorem run_establishes {P : TableState → Prop} {changes : List TableChange}
    {change : TableChange} (s : TableState)
    (hsorted : changes.Pairwise fun a b => a.phase ≤ b.phase) (hmem : change ∈ changes)
    (bring : ∀ t : TableState, P (t.apply change))
    (keep : ∀ later ∈ changes, change.phase ≤ later.phase →
      ∀ t : TableState, P t → P (t.apply later)) :
    P (s.run changes) := by
  obtain ⟨front, back, rfl⟩ := List.append_of_mem hmem
  obtain ⟨-, hback, -⟩ := List.pairwise_append.mp hsorted
  rw [run_append, run_cons]
  refine run_induction (bring _) ?_
  intro later hlater
  exact keep later (by simp [hlater]) ((List.pairwise_cons.mp hback).1 later hlater)

/-- No change renames the table. -/
@[simp] theorem apply_name (s : TableState) (change : TableChange) :
    (s.apply change).name = s.name := by
  cases change <;> rfl

/-- No run renames the table. -/
@[simp] theorem run_name (s : TableState) (changes : List TableChange) :
    (s.run changes).name = s.name :=
  run_induction (P := fun t : TableState => t.name = s.name) rfl fun change _ t ht => by
    rw [apply_name, ht]

/-- A column with another definition keeps its name and place. -/
@[simp] theorem apply_changeColumn_columnNames (s : TableState) (name definition : Text) :
    (s.apply (.changeColumn name definition)).columnNames = s.columnNames := by
  rw [columnNames, apply, List.map_map]
  refine List.map_congr_left ?_
  intro column _
  by_cases hname : column.1 = name
  · simp [hname]
  · simp [hname]

/-- A column that is dropped takes its name along. -/
@[simp] theorem apply_dropColumn_columnNames (s : TableState) (name : Text) :
    (s.apply (.dropColumn name)).columnNames = s.columnNames.filter (· != name) := by
  simp [columnNames, apply, List.filter_map, Function.comp_def]

@[simp] theorem ofTable_name (table : Table) : (ofTable table).name = table.name := rfl

@[simp] theorem ofTable_columnNames (table : Table) :
    (ofTable table).columnNames = table.columnNames := by
  simp [columnNames, ofTable, Table.columnNames]

end TableState

end SchemaMigration
