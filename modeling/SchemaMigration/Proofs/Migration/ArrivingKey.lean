import SchemaMigration.Proofs.Migration.KeyService

/-!
# The key of a new auto-increment column

A column that numbers the rows has to be the first of some key from the start, so the statement
that adds it adds a key too. If the primary key names the column, it is that key, whether it
starts with the column or not. Otherwise it is an index that starts with the column, and there is
none if each such index has the name of an old one: these are added later.

## Main Definitions

* `InlineKey.Leads` - a new column brings a key that starts with it
* `leadsKey_apply_addColumn_iff` - then, and only then, the column leads a key once it is there
* `TableComparison.LeadsArrivingKey` - the keys of the new table say that it brings such a key
* `leads_of_addColumn` - when a new auto-increment column does
-/

namespace SchemaMigration

/-- A key that arrives with a column starts with it. -/
def InlineKey.Leads (key : InlineKey) (column : Text) : Prop :=
  (∃ index ∈ key.index? column, (leadingColumns index.parts).head? = some column) ∨
    ∃ primaryKey ∈ key.primaryKey? column, (leadingColumns primaryKey.parts).head? = some column

/-- A column brings an index or a primary key, but not both. -/
theorem InlineKey.index?_eq_none {key : InlineKey} {column : Text} {primaryKey : PrimaryKey}
    (h : key.primaryKey? column = some primaryKey) : key.index? column = Option.none := by
  cases key <;> first | rfl | cases h

namespace TableState

variable {s : TableState} {name definition : Text} {key : InlineKey} {place : Placement}

/-- A new column that brings a key which starts with it leads a key. -/
theorem leadsKey_apply_of_leads (h : key.Leads name) :
    (s.apply (.addColumn name definition key place)).LeadsKey name := by
  rcases h with ⟨index, hindex, hhead⟩ | ⟨primaryKey, hkey, hhead⟩
  · refine ⟨_, List.mem_append_left _ (List.mem_map_of_mem ?_), hhead⟩
    exact List.mem_append_right _ (Option.mem_toList.mpr hindex)
  · refine ⟨_, List.mem_append_right _ (List.mem_map_of_mem ?_), hhead⟩
    rw [Option.mem_toList, apply, Option.mem_def.mp hkey]
    rfl

/-- No other column leads a key as soon as it is added, unless one was led before. -/
theorem leadsKey_apply_addColumn_iff (hfree : ¬ s.LeadsKey name) :
    (s.apply (.addColumn name definition key place)).LeadsKey name ↔ key.Leads name := by
  refine ⟨?_, leadsKey_apply_of_leads⟩
  rintro ⟨lead, hlead, hhead⟩
  rcases List.mem_append.mp hlead with hlead | hlead
  · obtain ⟨index, hindex, rfl⟩ := List.mem_map.mp hlead
    rcases List.mem_append.mp hindex with hbefore | hbrought
    · exact absurd ⟨_, List.mem_append_left _ (List.mem_map_of_mem hbefore), hhead⟩ hfree
    · exact Or.inl ⟨index, Option.mem_toList.mp hbrought, hhead⟩
  · obtain ⟨primaryKey, hkey, rfl⟩ := List.mem_map.mp hlead
    have hafter : (key.primaryKey? name).or s.primaryKey = some primaryKey :=
      Option.mem_toList.mp hkey
    rcases Option.or_eq_some_iff.mp hafter with hbrings | ⟨-, hbefore⟩
    · exact Or.inr ⟨primaryKey, hbrings, hhead⟩
    · refine absurd ⟨_, List.mem_append_right _ (List.mem_map_of_mem ?_), hhead⟩ hfree
      exact Option.mem_toList.mpr hbefore

end TableState

namespace TableComparison

variable {c : TableComparison} {column : Column}

/-- The primary key of the new table starts with a column, or it does not name the column, and an
index whose name the old table does not have starts with it. -/
def LeadsArrivingKey (c : TableComparison) (x : Text) : Prop :=
  (∃ key ∈ c.new.primaryKey, (leadingColumns key.parts).head? = some x) ∨
    (∀ key ∈ c.new.primaryKey, x ∉ namedColumns key.parts) ∧
      ∃ index ∈ c.new.indexes,
        c.old.index? index.name = none ∧ (leadingColumns index.parts).head? = some x

instance (c : TableComparison) (x : Text) : Decidable (c.LeadsArrivingKey x) :=
  inferInstanceAs (Decidable (_ ∨ _))

/-- A primary key that does not name a column does not arrive with it. -/
theorem inlineKey_eq_indexFor
    (h : ∀ key ∈ c.new.primaryKey, column.name ∉ namedColumns key.parts) :
    c.inlineKey column = c.indexFor column := by
  rw [inlineKey]
  cases hkey : c.new.primaryKey with
  | none => rfl
  | some key => simp [h key hkey]

/-- An auto-increment column brings an index just if one that starts with it is new. -/
theorem leads_indexFor_iff (hauto : column.isAutoIncrement = true) :
    (c.indexFor column).Leads column.name ↔ ∃ index ∈ c.new.indexes,
      c.old.index? index.name = none ∧ (leadingColumns index.parts).head? = some column.name := by
  constructor
  · rintro (⟨index, hindex, hhead⟩ | ⟨key, hkey, -⟩)
    · obtain ⟨hmem, hold, -⟩ := index?_indexFor hindex
      exact ⟨index, hmem, hold, hhead⟩
    · rw [primaryKey?_indexFor] at hkey
      cases hkey
  · rintro ⟨index, hmem, hold, hhead⟩
    have hsome : (c.newIndexOf? column.name).isSome = true := by
      rw [newIndexOf?, List.find?_isSome]
      exact ⟨index, hmem, by simp [hold, hhead]⟩
    obtain ⟨found, hfound⟩ := Option.isSome_iff_exists.mp hsome
    have hleads := List.find?_some hfound
    simp only [Bool.and_eq_true, beq_iff_eq] at hleads
    refine Or.inl ⟨found, ?_, hleads.2⟩
    rw [indexFor, if_pos hauto, hfound]
    rfl

/-- A primary key that names a new auto-increment column arrives with it. -/
theorem exists_primaryKey?_inlineKey (hold : c.old.WellFormed)
    (hadded : column.name ∉ c.old.columnNames) (hauto : column.isAutoIncrement = true)
    {key : PrimaryKey} (hkey : c.new.primaryKey = some key)
    (hin : column.name ∈ namedColumns key.parts) :
    ∃ brought, (c.inlineKey column).primaryKey? column.name = some brought ∧
      leadingColumns brought.parts = leadingColumns key.parts := by
  have hchanges := changesPrimaryKey_of_mem hold hkey hin hadded
  have hsome : ∃ brought, (c.inlineKey column).primaryKey? column.name = some brought := by
    by_cases hover : key.IsOver column.name
    · exact ⟨_, primaryKey?_inlineKey_iff.mpr ⟨key, hkey, hchanges, hin, Or.inl ⟨hover, rfl⟩⟩⟩
    · exact ⟨_, primaryKey?_inlineKey_iff.mpr
        ⟨key, hkey, hchanges, hin, Or.inr ⟨hover, hauto, rfl⟩⟩⟩
  obtain ⟨brought, hbrings⟩ := hsome
  obtain ⟨-, new, hnew, hleading, -⟩ := primaryKey?_inlineKey hbrings
  obtain rfl : key = new := Option.some.inj (hkey.symm.trans hnew)
  exact ⟨brought, hbrings, hleading⟩

/-- So the keys of the new table say whether a new auto-increment column brings a key that starts
with it. -/
theorem leads_inlineKey_iff (hold : c.old.WellFormed) (hadded : column.name ∉ c.old.columnNames)
    (hauto : column.isAutoIncrement = true) :
    (c.inlineKey column).Leads column.name ↔ c.LeadsArrivingKey column.name := by
  by_cases hnamed : ∃ key ∈ c.new.primaryKey, column.name ∈ namedColumns key.parts
  · obtain ⟨key, hkey, hin⟩ := hnamed
    obtain ⟨brought, hbrings, hleading⟩ :=
      exists_primaryKey?_inlineKey hold hadded hauto hkey hin
    rw [InlineKey.Leads, InlineKey.index?_eq_none hbrings, hbrings, LeadsArrivingKey,
      Option.mem_def.mp hkey]
    simp [hleading, hin]
  · have hother : ∀ key ∈ c.new.primaryKey, column.name ∉ namedColumns key.parts :=
      fun key hkey hin => hnamed ⟨key, hkey, hin⟩
    have hnone : ¬ ∃ key ∈ c.new.primaryKey, (leadingColumns key.parts).head? = some column.name :=
      fun ⟨key, hkey, hhead⟩ =>
        hother key hkey (leadingColumns_subset _ (List.mem_of_mem_head? hhead))
    rw [inlineKey_eq_indexFor hother, leads_indexFor_iff hauto, LeadsArrivingKey,
      or_iff_right hnone, and_iff_right hother]

/-- Between a table that was read and any other one, there is a statement for every auto-increment
column that is added, and it adds a key that starts with the column just if the primary key of the
new table does so, or does not name the column while an index with a new name starts with it. If so,
the column leads a key as soon as it is there, and if not, it leads none unless some key started
with it before. -/
theorem leads_of_addColumn {oldText : Text} (hold : Table.parse oldText = .ok c.old)
    {name definition : Text} {key : InlineKey} {place : Placement}
    (hadd : .addColumn name definition key place ∈ c.changes)
    (hauto : mentionsAutoIncrement definition = true) :
    (∃ statement ∈ c.statements,
      statement.Alters c.name (.addColumn name definition key place)) ∧
      (key.Leads name ↔ c.LeadsArrivingKey name) ∧
      (c.LeadsArrivingKey name → ∀ s : TableState,
        (s.apply (.addColumn name definition key place)).LeadsKey name) ∧
      (¬ c.LeadsArrivingKey name → ∀ s : TableState, ¬ s.LeadsKey name →
        ¬ (s.apply (.addColumn name definition key place)).LeadsKey name) := by
  have hstatement := c.exists_statement hadd
  obtain ⟨column, hcolumn, rfl, rfl, rfl⟩ := addColumn_mem hadd
  have hadded : column.name ∉ c.old.columnNames :=
    find?_eq_none_iff.mp (mem_addedColumns.mp hcolumn).2
  have hleads : (c.inlineKey column).Leads column.name ↔ c.LeadsArrivingKey column.name :=
    leads_inlineKey_iff (Table.wellFormed_of_parse hold) hadded hauto
  refine ⟨hstatement, hleads, ?_, ?_⟩
  · intro h s
    exact TableState.leadsKey_apply_of_leads (hleads.mpr h)
  · intro h s hfree hlater
    exact h (hleads.mp ((TableState.leadsKey_apply_addColumn_iff hfree).mp hlater))

/-- An auto-increment column is added to a table, with an index over it. The primary key that it
gets names the column too, but does not start with it. -/
def misordered : TableComparison where
  old := {
    name := "t"
    columns := [⟨"a", "int", 0⟩]
    indexes := []
    primaryKey := none
    foreignKeys := []
    checks := []
    options := []
    definition := "CREATE TABLE t (\n  a int\n);" }
  new := {
    name := "t"
    columns := [⟨"a", "int", 0⟩, ⟨"id", "int AUTO_INCREMENT", 1⟩]
    indexes := [⟨"by_id", .plain, ["id"], []⟩]
    primaryKey := some ⟨["a", "id"], []⟩
    foreignKeys := []
    checks := []
    options := []
    definition :=
      "CREATE TABLE t (\n  a int,\n  id int AUTO_INCREMENT,\n  PRIMARY KEY (a,id),\n" ++
      "  KEY by_id (id)\n);" }
  options := .default
  incoming := []

/-- An auto-increment column is added to a table, and an index of that table is now over it. -/
def reassigned : TableComparison where
  old := {
    name := "t"
    columns := [⟨"a", "int", 0⟩]
    indexes := [⟨"k", .plain, ["a"], []⟩]
    primaryKey := none
    foreignKeys := []
    checks := []
    options := []
    definition := "CREATE TABLE t (\n  a int,\n  KEY k (a)\n);" }
  new := {
    name := "t"
    columns := [⟨"a", "int", 0⟩, ⟨"id", "int AUTO_INCREMENT", 1⟩]
    indexes := [⟨"k", .plain, ["id"], []⟩]
    primaryKey := none
    foreignKeys := []
    checks := []
    options := []
    definition := "CREATE TABLE t (\n  a int,\n  id int AUTO_INCREMENT,\n  KEY k (id)\n);" }
  options := .default
  incoming := []

/-- In both the column leads a key in the end, but none while it is added. -/
theorem leads_of_addColumn_late :
    (misordered.changes = [.addColumn "id" "int AUTO_INCREMENT" (.andPrimaryKey ⟨["a", "id"], []⟩)
        .last, .addIndex ⟨"by_id", .plain, ["id"], []⟩] ∧
      (TableState.ofTable misordered.new).LeadsKey "id" ∧
      ¬ ((TableState.ofTable misordered.old).apply (.addColumn "id" "int AUTO_INCREMENT"
        (.andPrimaryKey ⟨["a", "id"], []⟩) .last)).LeadsKey "id") ∧
    (reassigned.changes = [.dropIndex "k", .addColumn "id" "int AUTO_INCREMENT" .none .last,
        .addIndex ⟨"k", .plain, ["id"], []⟩] ∧
      (TableState.ofTable reassigned.new).LeadsKey "id" ∧
      ¬ (((TableState.ofTable reassigned.old).apply (.dropIndex "k")).apply
        (.addColumn "id" "int AUTO_INCREMENT" .none .last)).LeadsKey "id") := by
  refine ⟨⟨by decide +kernel, by decide +kernel, ?_⟩, ⟨by decide +kernel, by decide +kernel, ?_⟩⟩
  · obtain ⟨-, -, -, hlate⟩ := leads_of_addColumn
      (show Table.parse misordered.old.definition = .ok misordered.old by decide +kernel)
      (show .addColumn "id" "int AUTO_INCREMENT" (.andPrimaryKey ⟨["a", "id"], []⟩) .last ∈
        misordered.changes by decide +kernel) (by decide +kernel)
    exact hlate (by decide +kernel) _ (by decide +kernel)
  · obtain ⟨-, -, -, hlate⟩ := leads_of_addColumn
      (show Table.parse reassigned.old.definition = .ok reassigned.old by decide +kernel)
      (show .addColumn "id" "int AUTO_INCREMENT" .none .last ∈ reassigned.changes by
        decide +kernel) (by decide +kernel)
    exact hlate (by decide +kernel) _ (by decide +kernel)

end TableComparison

end SchemaMigration
