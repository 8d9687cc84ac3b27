import SchemaMigration.Proofs.KeyedList
import SchemaMigration.Proofs.Table.Draft
import SchemaMigration.Proofs.Table.Line
import SchemaMigration.Proofs.Table.Name

/-!
# Well-formed tables

What the reader of table definitions guarantees of every table that it returns, whatever the
text: names are distinct, and keys name columns of the table.

## Main Definitions

* `Table.WellFormed` - distinct names, and keys over columns that are there
* `Table.Draft.WellFormed` - the part of it that each line preserves
* `Table.wellFormed_of_parse` - a table that was read is well formed
-/

namespace SchemaMigration

open Text

/-- What reading a definition guarantees of a table. -/
structure Table.WellFormed (table : Table) : Prop where
  columnNames_nodup : table.columnNames.Nodup
  columns_position : table.columns.map (·.position) = List.range table.columns.length
  indexNames_nodup : (table.indexes.map (·.name)).Nodup
  foreignKeyNames_nodup : (table.foreignKeys.map (·.name)).Nodup
  checkNames_nodup : (table.checks.map (·.name)).Nodup
  index_namesItself : ∀ index ∈ table.indexes, NamesItself index.name
  foreignKey_parts : ∀ key ∈ table.foreignKeys, ∃ text, key.parts = listItems text
  foreignKey_refParts : ∀ key ∈ table.foreignKeys, ∃ text, key.refParts = listItems text
  index_columns : ∀ index ∈ table.indexes, namedColumns index.parts ⊆ table.columnNames
  primaryKey_columns : ∀ key ∈ table.primaryKey, namedColumns key.parts ⊆ table.columnNames
  foreignKey_columns : ∀ key ∈ table.foreignKeys, namedColumns key.parts ⊆ table.columnNames

namespace Table.WellFormed

variable {table : Table}

/-- A column stands behind as many columns as its position says. -/
theorem exists_columns_eq_append (h : table.WellFormed) {column : Column}
    (hmem : column ∈ table.columns) : ∃ before behind,
      table.columns = before ++ column :: behind ∧ column.position = before.length := by
  obtain ⟨i, hi, rfl⟩ := List.mem_iff_getElem.mp hmem
  have hposition : table.columns[i].position = i := by
    have hget := congrArg (·[i]?) h.columns_position
    simpa [hi] using hget
  refine ⟨table.columns.take i, table.columns.drop (i + 1), ?_, ?_⟩
  · rw [← List.drop_eq_getElem_cons hi, List.take_append_drop]
  · rw [hposition, List.length_take_of_le hi.le]

/-- A column of a well-formed table is found by its name. -/
theorem column?_eq_some (h : table.WellFormed) {column : Column} (hmem : column ∈ table.columns) :
    table.column? column.name = some column :=
  find?_eq_some_of_mem h.columnNames_nodup hmem

/-- An index of a well-formed table is found by its name. -/
theorem index?_eq_some (h : table.WellFormed) {index : Index} (hmem : index ∈ table.indexes) :
    table.index? index.name = some index :=
  find?_eq_some_of_mem h.indexNames_nodup hmem

/-- A foreign key of a well-formed table is found by its name. -/
theorem foreignKey?_eq_some (h : table.WellFormed) {foreignKey : ForeignKey}
    (hmem : foreignKey ∈ table.foreignKeys) :
    table.foreignKey? foreignKey.name = some foreignKey :=
  find?_eq_some_of_mem h.foreignKeyNames_nodup hmem

end Table.WellFormed

namespace Table.Draft

/-- What every line of a table body preserves. -/
structure WellFormed (draft : Draft) : Prop where
  columnNames_nodup : (draft.columns.map (·.name)).Nodup
  columns_position : draft.columns.map (·.position) = List.range draft.columns.length
  indexNames_nodup : (draft.indexes.map (·.name)).Nodup
  foreignKeyNames_nodup : (draft.foreignKeys.map (·.name)).Nodup
  checkNames_nodup : (draft.checks.map (·.name)).Nodup
  index_namesItself : ∀ index ∈ draft.indexes, NamesItself index.name
  foreignKey_parts : ∀ key ∈ draft.foreignKeys, ∃ text, key.parts = listItems text
  foreignKey_refParts : ∀ key ∈ draft.foreignKeys, ∃ text, key.refParts = listItems text

theorem wellFormed_empty : empty.WellFormed := by
  constructor <;> simp [empty]

/-- Every line that a draft takes leaves it well formed. -/
theorem WellFormed.takes {table : Text} {draft next : Draft} {line : TableLine}
    (h : draft.WellFormed)
    (hline : ∀ name kind parts options, line = .index (some name) kind parts options →
      NamesItself name)
    (htakes : draft.Takes table line next) : next.WellFormed := by
  cases htakes with
  | column hnew =>
      exact { h with
        columnNames_nodup := nodup_concat h.columnNames_nodup hnew
        columns_position := by
          rw [List.map_append, h.columns_position, List.length_append]
          exact List.range_succ.symm }
  | primaryKey => exact { h with }
  | @index given kind partsText options name hname =>
      have hitself : NamesItself name := by
        rcases hname with ⟨rfl, -⟩ | ⟨-, rfl⟩
        · exact hline name kind partsText options rfl
        · exact namesItself_indexName draft _
      exact { h with
        indexNames_nodup :=
          nodup_concat h.indexNames_nodup (hname.notMem (indexName_notMem draft _))
        index_namesItself := forall_mem_concat h.index_namesItself hitself }
  | foreignKey hname =>
      exact { h with
        foreignKeyNames_nodup :=
          nodup_concat h.foreignKeyNames_nodup (hname.notMem (firstFree_notMem _ _ _))
        foreignKey_parts := forall_mem_concat h.foreignKey_parts ⟨_, rfl⟩
        foreignKey_refParts := forall_mem_concat h.foreignKey_refParts ⟨_, rfl⟩ }
  | check hname =>
      exact { h with
        checkNames_nodup :=
          nodup_concat h.checkNames_nodup (hname.notMem (firstFree_notMem _ _ _)) }
  | terminator | unrecognised => exact h

end Table.Draft

/-! ## Lines -/

namespace TableLine

/-- The name that an index line gives names nothing but itself. -/
theorem namesItself_of_ofText {text name : Text} {kind : IndexKind} {parts options : Text}
    (h : ofText text = .index (some name) kind parts options) : NamesItself name := by
  have hreads := reads_ofText text
  rw [h] at hreads
  exact namesItself_of_forall (hreads.of_index.1 name rfl).1.1.inside

end TableLine

/-! ## Whole definitions -/

namespace Table

/-- The lines up to the closing parenthesis leave a well-formed draft well formed. -/
theorem Draft.WellFormed.readBody {table : Text} {draft last : Draft} {lines trailer : List Text}
    (h : draft.WellFormed) (hread : Table.readBody table draft lines = .ok (last, trailer)) :
    last.WellFormed :=
  readBody_induction (fun _ _ _ _ hdraft => hdraft.takes fun _ _ _ _ hline =>
    TableLine.namesItself_of_ofText hline) h hread

/-- A draft that passes the final check has no key part that names an unknown column. -/
theorem Draft.mem_columnNames_of_checkColumns {table : Text} {draft : Draft}
    (h : draft.checkColumns table = .ok ()) {owner : KeyOwner} {part column : Text}
    (hpart : (owner, part) ∈ draft.keyParts) (hcolumn : columnName? part = some column) :
    column ∈ draft.columns.map (·.name) := by
  rcases unknownColumn?_eq_none.mp (checkColumns_eq_ok.mp h owner part hpart) with
    hopen | ⟨name, hmem, hname⟩
  · rw [columnName?_eq_none_of_startsWith hopen] at hcolumn
    cases hcolumn
  · obtain rfl := Option.some.inj (hname.symm.trans hcolumn)
    exact hmem

/-- So the keys of such a draft are over its columns. -/
theorem Draft.namedColumns_subset_of_checkColumns {table : Text} {draft : Draft}
    (h : draft.checkColumns table = .ok ()) (owner : KeyOwner) {parts : List Text}
    (hparts : ∀ part ∈ parts, (owner, part) ∈ draft.keyParts) :
    namedColumns parts ⊆ draft.columns.map (·.name) := by
  intro column hcolumn
  obtain ⟨part, hpart, hname⟩ := mem_namedColumns.mp hcolumn
  exact mem_columnNames_of_checkColumns h (hparts part hpart) hname

/-- A table that was read is well formed. -/
theorem wellFormed_of_parse {text : Text} {table : Table} (h : parse text = .ok table) :
    table.WellFormed := by
  obtain ⟨_, _, _, -, -, hbody, hchecked, -⟩ := parse_eq_ok.mp h
  have hdraft : table.draft.WellFormed := Draft.wellFormed_empty.readBody hbody
  exact {
    columnNames_nodup := hdraft.columnNames_nodup
    columns_position := hdraft.columns_position
    indexNames_nodup := hdraft.indexNames_nodup
    foreignKeyNames_nodup := hdraft.foreignKeyNames_nodup
    checkNames_nodup := hdraft.checkNames_nodup
    index_namesItself := hdraft.index_namesItself
    foreignKey_parts := hdraft.foreignKey_parts
    foreignKey_refParts := hdraft.foreignKey_refParts
    index_columns := fun index hindex =>
      Draft.namedColumns_subset_of_checkColumns hchecked (.index index.name) fun _ hpart =>
        Draft.mem_keyParts.mpr (.inl ⟨index, hindex, hpart, rfl⟩)
    primaryKey_columns := fun key hkey =>
      Draft.namedColumns_subset_of_checkColumns hchecked .primaryKey fun _ hpart =>
        Draft.mem_keyParts.mpr (.inr (.inl ⟨key, hkey, hpart, rfl⟩))
    foreignKey_columns := fun key hkey =>
      Draft.namedColumns_subset_of_checkColumns hchecked (.foreignKey key.name) fun _ hpart =>
        Draft.mem_keyParts.mpr (.inr (.inr ⟨key, hkey, hpart, rfl⟩)) }

end Table

end SchemaMigration
