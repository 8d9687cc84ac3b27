import SchemaMigration.Migration.TableComparison
import SchemaMigration.Proofs.KeyedList
import SchemaMigration.Proofs.Table.KeyPart
import SchemaMigration.Proofs.Migration.TableState

/-!
# Guards

The guards of a migration: what they are called, which columns they cover, and how their names
relate to the indexes of both tables.

## Main Definitions

* `IsGuardName`, `Table.HasNoGuardName` - names kept for guards, and tables that use none
* `columnGuard_cases`, `mem_guards` - what the guards are
* `exists_covers_of_mem_servedColumns` - the columns of every foreign key that stays are covered
* `indexName_ne_of_mem_old`, `indexName_ne_of_mem_new` - guards are called like no other index

## Design Notes

A guard without a name of its own is called like its column, which may be the name of an index
of the new table only if the guard is that very index.
-/

namespace SchemaMigration

/-- The names that guards with names of their own get. -/
def IsGuardName (name : Text) : Prop :=
  ∃ text, name = "mysqldiff_" ++ Digest.md5 text ∨ name = "temp_" ++ Digest.md5 text

/-- No index and no column of a table is named like a guard. -/
def Table.HasNoGuardName (table : Table) : Prop :=
  (∀ index ∈ table.indexes, ¬ IsGuardName index.name) ∧
    ∀ column ∈ table.columns, ¬ IsGuardName column.name

/-- A name that begins otherwise is not one for guards. -/
theorem not_isGuardName {name : Text} (h : ¬ "mysqldiff_".toList <+: name)
    (h' : ¬ "temp_".toList <+: name) : ¬ IsGuardName name := by
  rintro ⟨text, rfl | rfl⟩
  · exact h (List.prefix_append _ _)
  · exact h' (List.prefix_append _ _)

/-- Nor is a table with names that all begin otherwise one that uses names of guards. -/
theorem Table.hasNoGuardName_of_forall {table : Table}
    (h : ∀ name ∈ table.indexes.map (·.name) ++ table.columnNames,
      ¬ "mysqldiff_".toList <+: name ∧ ¬ "temp_".toList <+: name) : table.HasNoGuardName := by
  constructor
  · intro index hindex
    obtain ⟨hhashed, htemporary⟩ :=
      h index.name (List.mem_append_left _ (List.mem_map_of_mem hindex))
    exact not_isGuardName hhashed htemporary
  · intro column hcolumn
    obtain ⟨hhashed, htemporary⟩ :=
      h column.name (List.mem_append_right _ (List.mem_map_of_mem hcolumn))
    exact not_isGuardName hhashed htemporary

/-- The index of a guard has the name of the guard. -/
theorem guardIndex_name (guard : Guard) :
    (guardIndex guard.name guard.columns).name = guard.indexName := by
  rw [Guard.indexName]
  cases guard.name <;> rfl

namespace TableComparison

variable (c : TableComparison)

/-! ## Which guards there are -/

/-- A guard for a column is hashed, or is called like the column, which then is the name of no
index of the new table, or is an index of the new table. -/
theorem columnGuard_cases (x : Text) :
    c.columnGuard x = { name := some (c.hashedName x), columns := [x],
                        isForAutoIncrement := true, isAdopted := false } ∨
    (c.old.index? x = none ∧ c.new.index? x = none ∧
      c.columnGuard x = { name := none, columns := [x],
                          isForAutoIncrement := true, isAdopted := false }) ∨
    (c.old.index? x = none ∧
      c.new.index? x = some { name := x, kind := .plain, parts := [x], options := [] } ∧
      c.columnGuard x = { name := none, columns := [x],
                          isForAutoIncrement := true, isAdopted := true }) := by
  simp only [columnGuard]
  split
  · exact Or.inl rfl
  · rename_i hold
    have hold : c.old.index? x = none := by simpa using hold
    cases hnew : c.new.index? x with
    | none => exact Or.inr (Or.inl ⟨hold, rfl, rfl⟩)
    | some index =>
        simp only
        split
        · rename_i hplain
          obtain ⟨hkind, hparts, hoptions⟩ := hplain
          obtain ⟨-, hname⟩ := mem_of_find?_eq_some hnew
          have hsame : index = { name := x, kind := .plain, parts := [x], options := [] } := by
            cases index
            simp_all
          exact Or.inr (Or.inr ⟨hold, by rw [hsame], rfl⟩)
        · exact Or.inl rfl

variable {c}

/-- A guard for a column covers just that column. -/
@[simp] theorem columnGuard_columns (x : Text) : (c.columnGuard x).columns = [x] := by
  rcases c.columnGuard_cases x with h | ⟨-, -, h⟩ | ⟨-, -, h⟩ <;> rw [h]

/-- A guard that is adopted is that of the column it is called like, and an index of the new
table. -/
theorem columnGuard_of_adoptsIndex {x : Text} (h : c.adoptsIndex x = true) :
    x ∈ c.unguardedColumns ∧
      c.new.index? x = some { name := x, kind := .plain, parts := [x], options := [] } ∧
      c.columnGuard x = { name := none, columns := [x],
                          isForAutoIncrement := true, isAdopted := true } := by
  obtain ⟨guard, hguard, hadopted⟩ := List.any_eq_true.mp h
  obtain ⟨y, hy, rfl⟩ := List.mem_map.mp hguard
  rw [Bool.and_eq_true, columnGuard_columns, beq_iff_eq, List.singleton_inj] at hadopted
  obtain ⟨hadopted, rfl⟩ := hadopted
  rcases c.columnGuard_cases y with hcase | ⟨-, -, hcase⟩ | ⟨-, hnew, hcase⟩
  · rw [hcase] at hadopted
    cases hadopted
  · rw [hcase] at hadopted
    cases hadopted
  · exact ⟨hy, hnew, hcase⟩

/-- The guards of foreign keys. -/
theorem mem_keyGuardsFor {covered served : List (List Text)} {guard : Guard}
    (h : guard ∈ keyGuardsFor covered served) :
    ∃ columns ∈ served, columns ≠ [] ∧
      guard = { name := some (keyGuardName columns), columns,
                isForAutoIncrement := false, isAdopted := false } := by
  induction served generalizing covered with
  | nil => cases h
  | cons columns rest ih =>
      rw [keyGuardsFor] at h
      split at h
      · obtain ⟨found, hfound, hguard⟩ := ih h
        exact ⟨found, List.mem_cons_of_mem _ hfound, hguard⟩
      · rename_i hopen
        rcases List.mem_cons.mp h with rfl | h
        · refine ⟨columns, by simp, ?_, rfl⟩
          rintro rfl
          simp at hopen
        · obtain ⟨found, hfound, hguard⟩ := ih h
          exact ⟨found, List.mem_cons_of_mem _ hfound, hguard⟩

/-- All columns to be served are covered by keys or guards. -/
theorem exists_covers_of_mem_served (covered : List (List Text)) {served : List (List Text)}
    {columns : List Text} (hmem : columns ∈ served) (hne : columns ≠ []) :
    ∃ lead ∈ covered ++ (keyGuardsFor covered served).map (·.columns), columns <+: lead := by
  induction served generalizing covered with
  | nil => cases hmem
  | cons first rest ih =>
      rw [keyGuardsFor]
      rcases List.mem_cons.mp hmem with rfl | hmem
      · split
        · rename_i hcovered
          simp only [Bool.or_eq_true, List.isEmpty_iff, hne, false_or, List.any_eq_true] at hcovered
          obtain ⟨lead, hlead, hstarts⟩ := hcovered
          exact ⟨lead, List.mem_append_left _ hlead, List.isPrefixOf_iff_prefix.mp hstarts⟩
        · exact ⟨columns, by simp, List.prefix_refl _⟩
      · split
        · exact ih covered hmem
        · obtain ⟨lead, hlead, hstarts⟩ := ih (covered ++ [first]) hmem
          exact ⟨lead, by simpa using hlead, hstarts⟩

/-- A guard is one for a column without a key, or one for the columns of a foreign key. -/
theorem mem_guards {guard : Guard} (h : guard ∈ c.guards) :
    (∃ x ∈ c.unguardedColumns, guard = c.columnGuard x) ∨
    ∃ columns ∈ c.servedColumns, columns ≠ [] ∧
      guard = { name := some (keyGuardName columns), columns,
                isForAutoIncrement := false, isAdopted := false } := by
  rcases List.mem_append.mp h with h | h
  · obtain ⟨x, hx, rfl⟩ := List.mem_map.mp h
    exact Or.inl ⟨x, hx, rfl⟩
  · exact Or.inr (mem_keyGuardsFor h)

/-- The index of a guard is over the columns of the guard. -/
theorem guardIndex_parts {guard : Guard} (h : guard ∈ c.guards) :
    (guardIndex guard.name guard.columns).parts = guard.columns := by
  rcases mem_guards h with ⟨x, -, rfl⟩ | ⟨columns, -, -, rfl⟩
  · rw [columnGuard_columns]
    cases (c.columnGuard x).name <;> rfl
  · rfl

/-! ## What they cover -/

/-- The columns of every foreign key that stays are covered by a key that stays or a guard. -/
theorem exists_covers_of_mem_servedColumns {columns : List Text}
    (hmem : columns ∈ c.servedColumns) (hne : columns ≠ []) :
    ∃ lead ∈ c.survivingKeys ++ c.guards.map (·.columns), columns <+: lead := by
  obtain ⟨lead, hlead, hstarts⟩ :=
    exists_covers_of_mem_served (c.survivingKeys ++ c.columnGuards.map (·.columns)) hmem hne
  exact ⟨lead, by simpa [guards, keyGuards] using hlead, hstarts⟩

/-- Every column that must have a key is the first of a key that stays, or has a guard. -/
theorem exists_covers_of_isAutoIncrementOnce {column : Column} (hmem : column ∈ c.old.columns)
    (hauto : c.isAutoIncrementOnce column = true) :
    (∃ lead ∈ c.survivingKeys, [column.name] <+: lead) ∨ c.columnGuard column.name ∈ c.guards := by
  cases hsurvives : c.survivingKeys.any fun lead => lead.head? == some column.name with
  | true =>
      obtain ⟨lead, hlead, hhead⟩ := List.any_eq_true.mp hsurvives
      obtain ⟨rest, rfl⟩ := List.head?_eq_some_iff.mp (by simpa using hhead)
      exact Or.inl ⟨_, hlead, by simp⟩
  | false =>
      refine Or.inr (List.mem_append_left _ (List.mem_map_of_mem ?_))
      refine List.mem_map_of_mem (List.mem_filter.mpr ⟨hmem, ?_⟩)
      simp [hauto, hsurvives]

/-! ## Their names -/

/-- The old table has no index that is called like a guard. -/
theorem indexName_ne_of_mem_old (hnames : c.old.HasNoGuardName) {guard : Guard}
    (hguard : guard ∈ c.guards) {index : Index} (hindex : index ∈ c.old.indexes) :
    index.name ≠ guard.indexName := by
  rintro hname
  have hused := hnames.1 index hindex
  rw [hname] at hused
  have hfree : ∀ x, c.old.index? x = none → index.name ≠ x := by
    rintro x hx rfl
    exact find?_eq_none_iff.mp hx (List.mem_map_of_mem hindex)
  rcases mem_guards hguard with ⟨x, -, rfl⟩ | ⟨columns, -, -, rfl⟩
  · rcases c.columnGuard_cases x with h | ⟨hold, -, h⟩ | ⟨hold, -, h⟩
    · exact hused ⟨_, Or.inl (by rw [h]; rfl)⟩
    · exact hfree x hold (by rw [hname, h]; rfl)
    · exact hfree x hold (by rw [hname, h]; rfl)
  · exact hused ⟨_, Or.inr rfl⟩

/-- A guard whose index the new table has is adopted, unless it is dropped. -/
theorem indexName_ne_of_mem_new (hnames : c.new.HasNoGuardName) {guard : Guard}
    (hguard : guard ∈ c.temporaryGuards) {index : Index} (hindex : index ∈ c.new.indexes) :
    index.name ≠ guard.indexName := by
  rintro hname
  have hused := hnames.1 index hindex
  rw [hname] at hused
  obtain ⟨hguard, htemporary⟩ := List.mem_filter.mp hguard
  rcases mem_guards hguard with ⟨x, hx, rfl⟩ | ⟨columns, -, -, rfl⟩
  · rcases c.columnGuard_cases x with h | ⟨-, hnew, h⟩ | ⟨-, -, h⟩
    · exact hused ⟨_, Or.inl (by rw [h]; rfl)⟩
    · refine find?_eq_none_iff.mp hnew ?_
      have hindexName : (c.columnGuard x).indexName = x := by rw [h]; rfl
      rw [← hindexName, ← hname]
      exact List.mem_map_of_mem hindex
    -- A guard that stands for an index of the new table is adopted, so it is not temporary.
    · have hadopts : c.adoptsIndex x = true := by
        refine List.any_eq_true.mpr ⟨c.columnGuard x, List.mem_map_of_mem hx, ?_⟩
        rw [h]
        simp
      rw [h] at htemporary
      simp [hadopts] at htemporary
  · exact hused ⟨_, Or.inr rfl⟩

end TableComparison

end SchemaMigration
