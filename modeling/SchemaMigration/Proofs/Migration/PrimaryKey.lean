import SchemaMigration.Proofs.Migration.KeyService

/-!
# The primary key at the end of a migration

Whether a new column alone becomes the primary key is decided by the names of columns, so the
length and the order with which the new table writes such a key are lost. Every other primary key
arrives as it is written there, whether on its own, with an auto-increment column or from the old
table.

## Main Definitions

* `TableComparison.ArrivesAlone` - a new column that alone becomes the primary key
* `TableComparison.IsOutcome` - the primary key that the migration comes to
* `isOutcome_of_primaryKey?` - every primary key that a change brings is that one
* `IsOutcome.apply` - and no later change takes it away
* `primaryKey_of_run` - when the primary key at the end is that of the new table
-/

namespace SchemaMigration

/-- A primary key over just one column names that column and no other. -/
theorem PrimaryKey.IsOver.mem_iff {key : PrimaryKey} {x y : Text} (h : key.IsOver x) :
    y ∈ namedColumns key.parts ↔ y = x := by
  rw [(isOver_iff.mp h).1, List.mem_singleton]

namespace TableComparison

variable {c : TableComparison} {s : TableState} {change : TableChange}

/-- A new column over which alone the new table has its primary key, without options. -/
def ArrivesAlone (c : TableComparison) (column : Text) : Prop :=
  column ∉ c.old.columnNames ∧ ∃ key, c.new.primaryKey = some key ∧ key.IsOver column

/-- Such a column alone becomes the primary key. Without one it is that of the new table. -/
def IsOutcome (c : TableComparison) (key : Option PrimaryKey) : Prop :=
  (∃ column, c.ArrivesAlone column ∧ key = some { parts := [column], options := [] }) ∨
    (∀ column, ¬ c.ArrivesAlone column) ∧ key = c.new.primaryKey

/-- There is just one such primary key. -/
theorem IsOutcome.eq_of_arrivesAlone {key : Option PrimaryKey} (h : c.IsOutcome key)
    {column : Text} (hcolumn : c.ArrivesAlone column) :
    key = some { parts := [column], options := [] } := by
  rcases h with ⟨other, ⟨-, new, hnew, hover⟩, rfl⟩ | ⟨hnone, -⟩
  · obtain ⟨-, new', hnew', hover'⟩ := hcolumn
    obtain rfl : new' = new := Option.some.inj (hnew'.symm.trans hnew)
    rw [hover.mem_iff.mp (hover'.mem_iff.mpr rfl)]
  · exact absurd hcolumn (hnone column)

/-- It is over columns of the new table. -/
theorem IsOutcome.namedColumns_subset (hnew : c.new.WellFormed) {key : PrimaryKey}
    (h : c.IsOutcome (some key)) : namedColumns key.parts ⊆ c.new.columnNames := by
  rcases h with ⟨column, ⟨-, new, hkey, part, rfl, hpart⟩, hbare⟩ | ⟨-, hkey⟩
  · obtain rfl := Option.some.inj hbare
    refine List.Subset.trans ?_ (hnew.primaryKey_columns _ hkey)
    simp [namedColumns, hpart, columnName?_self hpart]
  · exact hnew.primaryKey_columns key hkey.symm

/-- Every primary key that a change brings is the one that the migration comes to. -/
theorem isOutcome_of_primaryKey? (hnew : c.new.WellFormed) (hchange : change ∈ c.changes)
    {key : PrimaryKey} (hbrings : change.primaryKey? = some key) : c.IsOutcome (some key) := by
  cases change with
  | addColumn name definition inline place =>
      obtain ⟨column, hcolumn, rfl, -, rfl⟩ := addColumn_mem hchange
      obtain ⟨new, hkey, -, hin, hkind⟩ := primaryKey?_inlineKey_iff.mp hbrings
      rcases hkind with ⟨hover, rfl⟩ | ⟨hover, -, rfl⟩
      · have hadded : column.name ∉ c.old.columnNames :=
          find?_eq_none_iff.mp (mem_addedColumns.mp hcolumn).2
        exact Or.inl ⟨column.name, ⟨hadded, new, hkey, hover⟩, rfl⟩
      · refine Or.inr ⟨?_, hkey.symm⟩
        rintro other ⟨-, new', hkey', hover'⟩
        obtain rfl : key = new' := Option.some.inj (hkey.symm.trans hkey')
        rw [hover'.mem_iff.mp hin] at hover
        exact hover hover'
  | addPrimaryKey other =>
      obtain rfl := Option.some.inj hbrings
      obtain ⟨hchanges, hinline, hkey⟩ := addPrimaryKey_mem.mp hchange
      refine Or.inr ⟨?_, hkey.symm⟩
      -- The column would bring the key, and then no change but its own does.
      rintro x ⟨hadded, new, hkey', hover⟩
      have hin : x ∈ namedColumns new.parts := hover.mem_iff.mpr rfl
      obtain ⟨column, hcolumn, rfl⟩ := List.mem_map.mp (hnew.primaryKey_columns new hkey' hin)
      have hnone : c.addsPrimaryKeyInline = true :=
        addsPrimaryKeyInline_iff.mpr ⟨column,
          mem_addedColumns.mpr ⟨hcolumn, find?_eq_none_iff.mpr hadded⟩, _,
          primaryKey?_inlineKey_iff.mpr ⟨new, hkey', hchanges, hin, Or.inl ⟨hover, rfl⟩⟩⟩
      rw [hinline] at hnone
      cases hnone
  | _ => cases hbrings

/-- Once it is there, nothing takes it away unless primary keys are dropped. -/
theorem IsOutcome.apply (hnew : c.new.WellFormed) (h : c.IsOutcome s.primaryKey)
    (hchange : change ∈ c.changes) (hdrop : change ≠ .dropPrimaryKey) :
    c.IsOutcome (s.apply change).primaryKey := by
  cases hbrings : change.primaryKey? with
  | some key =>
      rw [TableState.apply_primaryKey_of_some hbrings]
      exact isOutcome_of_primaryKey? hnew hchange hbrings
  | none =>
      rw [TableState.apply_primaryKey_of_none hbrings hdrop]
      · exact h
      · rintro d rfl key hkey hin
        rw [hkey] at h
        exact dropColumn_notMem (h.namedColumns_subset hnew hin) hchange

/-- A primary key that stays is the one that the migration comes to. -/
theorem isOutcome_of_kept (hold : c.old.WellFormed) (hkeeps : c.changesPrimaryKey = false) :
    c.IsOutcome c.old.primaryKey := by
  refine Or.inr ⟨?_, by simpa [changesPrimaryKey] using hkeeps⟩
  rintro x ⟨hadded, key, hkey, hover⟩
  rw [changesPrimaryKey_of_mem hold hkey (hover.mem_iff.mpr rfl) hadded] at hkeeps
  cases hkeeps

/-- The migration comes to it. -/
theorem isOutcome_run (hold : c.old.WellFormed) (hnew : c.new.WellFormed) :
    c.IsOutcome ((TableState.ofTable c.old).run c.changes).primaryKey := by
  cases hchanges : c.changesPrimaryKey with
  | false =>
      refine TableState.run_induction (P := fun t => c.IsOutcome t.primaryKey)
        (isOutcome_of_kept hold hchanges) ?_
      intro change hchange t ht
      refine ht.apply hnew hchange ?_
      rintro rfl
      exact (not_replace_kept hchanges).1 hchange
  | true =>
      cases hkey : c.new.primaryKey with
      | none =>
          -- Then there is one to be dropped, and no change brings another.
          have hdrop : .dropPrimaryKey ∈ c.changes := by
            refine dropPrimaryKey_mem.mpr ⟨hchanges, ?_⟩
            rw [← hkey]
            simpa [changesPrimaryKey] using hchanges
          have hnone : c.IsOutcome none := by
            refine Or.inr ⟨?_, hkey.symm⟩
            rintro x ⟨-, key, hkey', -⟩
            rw [hkey] at hkey'
            cases hkey'
          refine TableState.run_establishes (P := fun t => c.IsOutcome t.primaryKey) _
            c.pairwise_changes hdrop (fun t => hnone) ?_
          intro later hlater _ t ht
          by_cases hagain : later = .dropPrimaryKey
          · rw [hagain]
            exact hnone
          · exact ht.apply hnew hlater hagain
      | some key =>
          obtain ⟨change, hchange, brought, hbrings⟩ := exists_primaryKey?_eq_some hkey hchanges
          refine TableState.run_establishes (P := fun t => c.IsOutcome t.primaryKey) _
            c.pairwise_changes hchange ?_ ?_
          · intro t
            rw [TableState.apply_primaryKey_of_some hbrings]
            exact isOutcome_of_primaryKey? hnew hchange hbrings
          · intro later hlater hphase t ht
            refine ht.apply hnew hlater ?_
            rintro rfl
            exact absurd ((TableChange.addColumn_le_of_primaryKey? hbrings).trans hphase)
              (show ¬ Phase.addColumn ≤ .dropPrimaryKey by decide)

/-- Between any two tables that were read, the primary key behind the statements of a migration is
that of the new table, as it is written there, just if no new column alone becomes the primary key,
or the key is written as that column. Otherwise it loses its length and its order. -/
theorem primaryKey_of_run {oldText newText : Text} (hold : Table.parse oldText = .ok c.old)
    (hnew : Table.parse newText = .ok c.new) :
    List.Forall₂ (Statement.Alters c.name) c.statements c.changes ∧
    (((TableState.ofTable c.old).run c.changes).primaryKey = c.new.primaryKey ↔
      ∀ column, c.ArrivesAlone column →
        c.new.primaryKey = some { parts := [column], options := [] }) ∧
      ∀ column, c.ArrivesAlone column →
        ((TableState.ofTable c.old).run c.changes).primaryKey
          = some { parts := [column], options := [] } := by
  have houtcome :=
    isOutcome_run (Table.wellFormed_of_parse hold) (Table.wellFormed_of_parse hnew)
  refine ⟨c.alters_statements, ?_, fun column hcolumn => houtcome.eq_of_arrivesAlone hcolumn⟩
  constructor
  · intro hsame column hcolumn
    rw [← hsame]
    exact houtcome.eq_of_arrivesAlone hcolumn
  · intro hbare
    rcases houtcome with ⟨column, hcolumn, hkey⟩ | ⟨-, hkey⟩
    · rw [hkey, hbare column hcolumn]
    · exact hkey

/-- A table gets a column and a primary key over the front of it. -/
def shortened : TableComparison where
  old := {
    name := "t"
    columns := [⟨"a", "int", 0⟩]
    indexes := []
    primaryKey := none
    foreignKeys := []
    checks := []
    options := []
    definition := "CREATE TABLE t (\n  a int\n);" }
  new := {
    name := "t"
    columns := [⟨"a", "int", 0⟩, ⟨"name", "varchar(64) NOT NULL", 1⟩]
    indexes := []
    primaryKey := some ⟨["name(10)"], []⟩
    foreignKeys := []
    checks := []
    options := []
    definition :=
      "CREATE TABLE t (\n  a int,\n  name varchar(64) NOT NULL,\n  PRIMARY KEY (name(10))\n);" }
  options := .default
  incoming := []

/-- The primary key that it gets is over the whole column. -/
theorem primaryKey_of_run_shortened :
    shortened.changes = [.addColumn "name" "varchar(64) NOT NULL" .primaryKey .last] ∧
      ((TableState.ofTable shortened.old).run shortened.changes).primaryKey
        = some { parts := ["name"], options := [] } ∧
      ((TableState.ofTable shortened.old).run shortened.changes).primaryKey
        ≠ shortened.new.primaryKey := by
  have halone : shortened.ArrivesAlone "name" :=
    ⟨by decide, ⟨["name(10)"], []⟩, rfl, "name(10)", rfl, by decide⟩
  obtain ⟨-, hsame, hbare⟩ := primaryKey_of_run
    (show Table.parse shortened.old.definition = .ok shortened.old by decide +kernel)
    (show Table.parse shortened.new.definition = .ok shortened.new by decide +kernel)
  refine ⟨by decide +kernel, hbare _ halone, ?_⟩
  intro h
  exact absurd (hsame.mp h _ halone) (by decide)

end TableComparison

end SchemaMigration
