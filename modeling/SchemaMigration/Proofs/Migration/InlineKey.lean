import SchemaMigration.Migration.TableComparison
import SchemaMigration.Proofs.KeyedList
import SchemaMigration.Proofs.Table.KeyPart
import SchemaMigration.Proofs.Migration.TableState

/-!
# Keys that arrive with a column

An added column may bring an index or the primary key. Whatever it brings is a key of the new
table, and one that the old table does not have.

## Main Definitions

* `MayBring` - the indexes that a column may bring
* `index?_inlineKey` - the index that a column brings is a new one of the new table
* `primaryKey?_inlineKey_iff` - when a column brings a primary key, and which one
* `primaryKey?_inlineKey` - the primary key that it brings covers what that of the new table does
* `addsIndexInline_iff`, `addsPrimaryKeyInline_iff` - when some column brings a key
-/

namespace SchemaMigration

/-- A primary key over just one column, whose part may have a length and an order, without
options. -/
def PrimaryKey.IsOver (key : PrimaryKey) (column : Text) : Prop :=
  ∃ part, key = { parts := [part], options := [] } ∧ columnName? part = some column

/-- It names that column and has no more parts than that. -/
theorem PrimaryKey.isOver_iff {key : PrimaryKey} {column : Text} : key.IsOver column ↔
    namedColumns key.parts = [column] ∧ key.parts.length = 1 ∧ key.options = [] := by
  constructor
  · rintro ⟨part, rfl, hpart⟩
    simp [namedColumns, hpart]
  · rintro ⟨hnamed, hlength, hoptions⟩
    obtain ⟨parts, options⟩ := key
    obtain ⟨part, rfl⟩ := List.length_eq_one_iff.mp hlength
    refine ⟨part, congrArg _ hoptions, ?_⟩
    cases hname : columnName? part <;> simp_all [namedColumns]

namespace TableComparison

variable {c : TableComparison} {column : Column}

/-- An auto-increment column may bring any index that it leads, another one just the unique index
over it. -/
def MayBring (column : Column) (index : Index) : Prop :=
  (column.isAutoIncrement = true ∧ (leadingColumns index.parts).head? = some column.name) ∨
    (column.isAutoIncrement = false ∧
      index = { name := column.name, kind := .unique, parts := [column.name], options := [] })

/-- Apart from the primary key, a column brings a new index of the new table. -/
theorem index?_indexFor {index : Index} (h : (c.indexFor column).index? column.name = some index) :
    index ∈ c.new.indexes ∧ c.old.index? index.name = none ∧ MayBring column index := by
  rw [indexFor] at h
  split at h
  · rename_i hauto
    cases hnew : c.newIndexOf? column.name with
    | none =>
        rw [hnew] at h
        cases h
    | some found =>
        rw [hnew] at h
        obtain rfl : found = index := Option.some.inj h
        have hfound := List.find?_some hnew
        simp only [Bool.and_eq_true, Option.isNone_iff_eq_none, beq_iff_eq] at hfound
        obtain ⟨hold, hleads⟩ := hfound
        exact ⟨List.mem_of_find?_eq_some hnew, hold, Or.inl ⟨hauto, hleads⟩⟩
  · rename_i hauto
    cases hnew : c.new.index? column.name with
    | none =>
        rw [hnew] at h
        cases h
    | some found =>
        simp only [hnew] at h
        split at h
        · rename_i hplain
          obtain ⟨hold, hkind, hparts, hoptions⟩ := hplain
          obtain ⟨hmem, hname⟩ := mem_of_find?_eq_some hnew
          obtain rfl : _ = index := Option.some.inj h
          have hsame : found = { name := column.name, kind := .unique, parts := [column.name],
                                 options := [] } := by
            cases found
            simp_all
          refine ⟨?_, by simpa [hname] using hold, Or.inr ⟨by simpa using hauto, rfl⟩⟩
          rwa [← hsame]
        · cases h

/-- The index that a column brings is one of the new table, and the old table has none of its
name. -/
theorem index?_inlineKey {index : Index}
    (h : (c.inlineKey column).index? column.name = some index) :
    index ∈ c.new.indexes ∧ c.old.index? index.name = none ∧ MayBring column index := by
  rw [inlineKey] at h
  split at h
  · exact index?_indexFor h
  · split at h
    · split at h
      · cases h
      · split at h
        · cases h
        · exact index?_indexFor h
    · exact index?_indexFor h

/-- No index is a primary key. -/
theorem primaryKey?_indexFor : (c.indexFor column).primaryKey? column.name = none := by
  rw [indexFor]
  split
  · cases c.newIndexOf? column.name <;> rfl
  · cases c.new.index? column.name with
    | none => rfl
    | some found =>
        simp only
        split <;> rfl

/-- A column brings the primary key of the new table if that names the column and is another one
than before. A key over just that column arrives as the column itself, however it is written; any
other one arrives with an auto-increment column only, and as it is. -/
theorem primaryKey?_inlineKey_iff {key : PrimaryKey} :
    (c.inlineKey column).primaryKey? column.name = some key ↔
      ∃ new, c.new.primaryKey = some new ∧ c.changesPrimaryKey = true ∧
        column.name ∈ namedColumns new.parts ∧
        (new.IsOver column.name ∧ key = { parts := [column.name], options := [] } ∨
          ¬ new.IsOver column.name ∧ column.isAutoIncrement = true ∧ key = new) := by
  rw [inlineKey]
  cases hnew : c.new.primaryKey with
  | none => simp [primaryKey?_indexFor]
  | some new =>
      simp only [Option.some.injEq, exists_eq_left']
      by_cases hnamed : c.changesPrimaryKey = true ∧ column.name ∈ namedColumns new.parts
      · have hboth : (c.changesPrimaryKey && (namedColumns new.parts).contains column.name)
            = true := by
          simp [hnamed]
        rw [if_pos hboth]
        by_cases hover : new.IsOver column.name
        · rw [if_pos (PrimaryKey.isOver_iff.mp hover)]
          simp [hnamed, hover, InlineKey.primaryKey?, eq_comm (b := key)]
        · rw [if_neg fun h => hover (PrimaryKey.isOver_iff.mpr h)]
          cases hauto : column.isAutoIncrement
          · simp [hover, primaryKey?_indexFor]
          · simp [hnamed, hover, InlineKey.primaryKey?, eq_comm (b := key)]
      · have hother : (c.changesPrimaryKey && (namedColumns new.parts).contains column.name)
            = false := by
          rw [Bool.eq_false_iff, Ne, Bool.and_eq_true, List.contains_iff_mem]
          exact hnamed
        rw [hother]
        simp only [Bool.false_eq_true, if_false, primaryKey?_indexFor, reduceCtorEq, false_iff]
        rintro ⟨hchanges, hin, -⟩
        exact hnamed ⟨hchanges, hin⟩

/-- The primary key that a column brings is another one than before, and it names the columns
that the primary key of the new table names: that column among them, and no other one unless it
is an auto-increment column. -/
theorem primaryKey?_inlineKey {key : PrimaryKey}
    (h : (c.inlineKey column).primaryKey? column.name = some key) :
    c.changesPrimaryKey = true ∧ ∃ new, c.new.primaryKey = some new ∧
      leadingColumns key.parts = leadingColumns new.parts ∧
      namedColumns key.parts = namedColumns new.parts ∧ column.name ∈ namedColumns new.parts ∧
      (column.isAutoIncrement = true ∨ namedColumns new.parts = [column.name]) := by
  obtain ⟨new, hnew, hchanges, hin, hkind⟩ := primaryKey?_inlineKey_iff.mp h
  refine ⟨hchanges, new, hnew, ?_⟩
  rcases hkind with ⟨hover, rfl⟩ | ⟨-, hauto, rfl⟩
  · -- The key is written as the column itself, and so names what its only part names.
    obtain ⟨part, rfl, hpart⟩ := hover
    simp [leadingColumns, namedColumns, hpart, columnName?_self hpart]
  · exact ⟨rfl, rfl, hin, Or.inl hauto⟩

/-- Some added column brings an index of a name. -/
theorem addsIndexInline_iff {name : Text} : c.addsIndexInline name = true ↔
    ∃ column ∈ c.addedColumns, ∃ index,
      (c.inlineKey column).index? column.name = some index ∧ index.name = name := by
  rw [addsIndexInline, List.any_eq_true]
  constructor
  · rintro ⟨column, hcolumn, h⟩
    refine ⟨column, hcolumn, ?_⟩
    cases hkey : c.inlineKey column <;> simp_all [InlineKey.index?]
  · rintro ⟨column, hcolumn, index, hindex, rfl⟩
    refine ⟨column, hcolumn, ?_⟩
    cases hkey : c.inlineKey column with
    | uniqueKey =>
        rw [hkey] at hindex
        obtain rfl := Option.some.inj hindex
        simp
    | _ => simp_all [InlineKey.index?]

/-- Some added column brings the primary key. -/
theorem addsPrimaryKeyInline_iff : c.addsPrimaryKeyInline = true ↔
    ∃ column ∈ c.addedColumns, ∃ key,
      (c.inlineKey column).primaryKey? column.name = some key := by
  rw [addsPrimaryKeyInline, List.any_eq_true]
  constructor
  · rintro ⟨column, hcolumn, h⟩
    refine ⟨column, hcolumn, ?_⟩
    cases hkey : c.inlineKey column <;> simp_all [InlineKey.primaryKey?]
  · rintro ⟨column, hcolumn, key, hbrings⟩
    refine ⟨column, hcolumn, ?_⟩
    cases hkey : c.inlineKey column <;> simp_all [InlineKey.primaryKey?]

end TableComparison

end SchemaMigration
