import SchemaMigration.Proofs.Table.KeyPart
import SchemaMigration.Proofs.Migration.TableState

/-!
# Keys that changes leave alone

A key serves given columns as long as nobody drops it, nor any of these columns: other columns
may leave the key, and what remains of it still starts with those that are given.

## Main Definitions

* `TableChange.index?`, `TableChange.primaryKey?` - the key that a change brings
* `TableState.HasIndexOn`, `TableState.HasPrimaryKeyOn` - a certain key starts with given columns
* `serves_iff` - columns are served by an index or by the primary key
* `HasIndexOn.apply`, `HasPrimaryKeyOn.apply` - what keeps such a key
* `apply_primaryKey_of_some`, `apply_primaryKey_of_none` - the primary key behind a change
-/

namespace SchemaMigration

/-- The index that a change brings. -/
def TableChange.index? : TableChange → Option Index
  | addGuard name columns => some (guardIndex name columns)
  | addColumn name _ key _ => key.index? name
  | addIndex index => some index
  | _ => none

/-- The primary key that a change brings. -/
def TableChange.primaryKey? : TableChange → Option PrimaryKey
  | addColumn name _ key _ => key.primaryKey? name
  | addPrimaryKey key => some key
  | _ => none

/-- A change that brings an index is no later than the indexes that are added. -/
theorem TableChange.le_addIndex_of_index? {change : TableChange} {index : Index}
    (h : change.index? = some index) : change.phase ≤ .addIndex := by
  cases change with
  | addGuard => exact (by decide : Phase.guardIndex ≤ .addIndex)
  | addColumn => exact (by decide : Phase.addColumn ≤ .addIndex)
  | addIndex => exact le_refl _
  | _ => cases h

/-- A change that brings a primary key is no earlier than the columns that are added. -/
theorem TableChange.addColumn_le_of_primaryKey? {change : TableChange} {key : PrimaryKey}
    (h : change.primaryKey? = some key) : .addColumn ≤ change.phase := by
  cases change with
  | addColumn => exact le_refl _
  | addPrimaryKey => exact (by decide : Phase.addColumn ≤ .addPrimaryKey)
  | _ => cases h

/-- A change that brings a primary key is no later than the primary key that is added. -/
theorem TableChange.le_addPrimaryKey_of_primaryKey? {change : TableChange} {key : PrimaryKey}
    (h : change.primaryKey? = some key) : change.phase ≤ .addPrimaryKey := by
  cases change with
  | addColumn => exact (by decide : Phase.addColumn ≤ .addPrimaryKey)
  | addPrimaryKey => exact le_refl _
  | _ => cases h

/-- If a column is dropped, a key still starts with the other columns that it started with. -/
theorem prefix_leadingColumns_partsWithout {d : Text} {columns parts : List Text}
    (h : columns <+: leadingColumns parts) (hd : d ∉ columns) :
    columns <+: leadingColumns (partsWithout d parts) := by
  induction parts generalizing columns with
  | nil => exact h
  | cons part parts ih =>
      cases hname : columnName? part with
      | none =>
          rw [leadingColumns, hname] at h
          rw [List.prefix_nil.mp h]
          exact List.nil_prefix
      | some name =>
          cases columns with
          | nil => exact List.nil_prefix
          | cons x columns =>
              rw [leadingColumns, hname] at h
              obtain ⟨rfl, hrest⟩ := List.cons_prefix_cons.mp h
              obtain ⟨hx, hcolumns⟩ := List.ne_and_not_mem_of_not_mem_cons hd
              have hkept : partsWithout d (part :: parts) = part :: partsWithout d parts := by
                simp [partsWithout, hname, Ne.symm hx]
              rw [hkept, leadingColumns, hname]
              exact List.cons_prefix_cons.mpr ⟨rfl, ih hrest hcolumns⟩

/-- A column that key parts do not name takes none of them away. -/
theorem partsWithout_of_notMem {d : Text} {parts : List Text} (h : d ∉ namedColumns parts) :
    partsWithout d parts = parts := by
  rw [partsWithout, List.filter_eq_self]
  intro part hpart
  rw [bne_iff_ne]
  intro hname
  exact h (mem_namedColumns.mpr ⟨part, hpart, hname⟩)

/-- Nor does it change a primary key. -/
theorem PrimaryKey.withoutColumn?_of_notMem {d : Text} {key : PrimaryKey}
    (h : d ∉ namedColumns key.parts) : key.withoutColumn? d = some key := by
  rw [withoutColumn?, partsWithout_of_notMem h]
  exact if_neg fun hnone => hnone.2 hnone.1

/-- A key that starts with some column has parts. -/
theorem ne_nil_of_prefix_leadingColumns {columns parts : List Text} (hne : columns ≠ [])
    (h : columns <+: leadingColumns parts) : parts ≠ [] := by
  rintro rfl
  exact hne (List.prefix_nil.mp h)

namespace TableState

variable {s : TableState} {columns : List Text} {change : TableChange}

/-- The index of a name starts with given columns. -/
def HasIndexOn (s : TableState) (name : Text) (columns : List Text) : Prop :=
  ∃ index ∈ s.indexes, index.name = name ∧ columns <+: leadingColumns index.parts

/-- The primary key starts with given columns. -/
def HasPrimaryKeyOn (s : TableState) (columns : List Text) : Prop :=
  ∃ key, s.primaryKey = some key ∧ columns <+: leadingColumns key.parts

/-- Columns are served by an index or by the primary key. -/
theorem serves_iff : s.Serves columns ↔
    columns ≠ [] ∧ ((∃ name, s.HasIndexOn name columns) ∨ s.HasPrimaryKeyOn columns) := by
  rw [Serves, and_congr_right_iff]
  intro _
  constructor
  · rintro ⟨lead, hlead, hstarts⟩
    rcases List.mem_append.mp hlead with hlead | hlead
    · obtain ⟨index, hindex, rfl⟩ := List.mem_map.mp hlead
      exact Or.inl ⟨index.name, index, hindex, rfl, hstarts⟩
    · obtain ⟨key, hkey, rfl⟩ := List.mem_map.mp hlead
      exact Or.inr ⟨key, Option.mem_toList.mp hkey, hstarts⟩
  · rintro (⟨name, index, hindex, -, hstarts⟩ | ⟨key, hkey, hstarts⟩)
    · exact ⟨_, List.mem_append_left _ (List.mem_map_of_mem hindex), hstarts⟩
    · refine ⟨leadingColumns key.parts, List.mem_append_right _ ?_, hstarts⟩
      exact List.mem_map_of_mem (Option.mem_toList.mpr hkey)

/-- A column leads a key just if it is served alone. -/
theorem leadsKey_iff {x : Text} : s.LeadsKey x ↔ s.Serves [x] := by
  have hhead : ∀ lead : List Text, lead.head? = some x ↔ [x] <+: lead := by
    intro lead
    cases lead <;> simp [eq_comm]
  simp [LeadsKey, Serves, hhead]

/-! ## Indexes -/

/-- The index that a change brings is there. -/
theorem hasIndexOn_of_index? {index : Index} (hindex : change.index? = some index)
    (hstarts : columns <+: leadingColumns index.parts) :
    (s.apply change).HasIndexOn index.name columns := by
  refine ⟨index, ?_, rfl, hstarts⟩
  cases change <;> simp_all [TableChange.index?, apply]

/-- An index stays unless it is dropped, as an index or as a guard, or one of its columns is. -/
theorem HasIndexOn.apply {name : Text} (h : s.HasIndexOn name columns) (hne : columns ≠ [])
    (hdrop : change ≠ .dropIndex name) (hguard : change ≠ .dropGuard name)
    (hcolumn : ∀ d ∈ columns, change ≠ .dropColumn d) :
    (s.apply change).HasIndexOn name columns := by
  obtain ⟨index, hindex, rfl, hstarts⟩ := h
  have kept : ∀ other, index.name ≠ other → index ∈ s.indexes.filter (·.name != other) := by
    intro other hother
    exact List.mem_filter.mpr ⟨hindex, by simpa using hother⟩
  cases change with
  | dropIndex other => exact ⟨index, kept other (by rintro rfl; exact hdrop rfl), rfl, hstarts⟩
  | dropGuard other => exact ⟨index, kept other (by rintro rfl; exact hguard rfl), rfl, hstarts⟩
  | dropColumn d =>
      have hd : d ∉ columns := fun hd => hcolumn d hd rfl
      have hrest := prefix_leadingColumns_partsWithout hstarts hd
      -- Without that column the index is another one, but it starts the same.
      refine ⟨{ index with parts := partsWithout d index.parts }, ?_, rfl, hrest⟩
      refine List.mem_filterMap.mpr ⟨index, hindex, ?_⟩
      simp [Index.withoutColumn?, ne_nil_of_prefix_leadingColumns hne hrest]
  | addGuard | addColumn | addIndex =>
      exact ⟨index, List.mem_append_left _ hindex, rfl, hstarts⟩
  | _ => exact ⟨index, hindex, rfl, hstarts⟩

/-- So it does if nobody drops it in a whole run. -/
theorem HasIndexOn.run {changes : List TableChange} {name : Text} (h : s.HasIndexOn name columns)
    (hne : columns ≠ []) (hdrop : .dropIndex name ∉ changes) (hguard : .dropGuard name ∉ changes)
    (hcolumn : ∀ d ∈ columns, .dropColumn d ∉ changes) :
    (s.run changes).HasIndexOn name columns := by
  refine run_induction (P := fun t => t.HasIndexOn name columns) h ?_
  intro change hchange t ht
  refine ht.apply hne ?_ ?_ ?_
  · rintro rfl
    exact hdrop hchange
  · rintro rfl
    exact hguard hchange
  · rintro d hd rfl
    exact hcolumn d hd hchange

/-- An index that a run brings is there at its end, unless it is dropped later on. -/
theorem hasIndexOn_run_of_index? {changes : List TableChange} {index : Index} (s : TableState)
    (hsorted : changes.Pairwise fun a b => a.phase ≤ b.phase) (hmem : change ∈ changes)
    (hindex : change.index? = some index) (hne : columns ≠ [])
    (hstarts : columns <+: leadingColumns index.parts)
    (hdrop : change.phase ≤ .dropIndex → .dropIndex index.name ∉ changes)
    (hguard : .dropGuard index.name ∉ changes)
    (hcolumn : ∀ d ∈ columns, .dropColumn d ∉ changes) :
    (s.run changes).HasIndexOn index.name columns := by
  refine run_establishes (P := fun t => t.HasIndexOn index.name columns) s hsorted hmem ?_ ?_
  · exact fun t => hasIndexOn_of_index? hindex hstarts
  · intro later hlater hphase t ht
    refine ht.apply hne ?_ ?_ ?_
    · rintro rfl
      exact hdrop hphase hlater
    · rintro rfl
      exact hguard hlater
    · rintro d hd rfl
      exact hcolumn d hd hlater

/-! ## The primary key -/

/-- The primary key that a change brings is there. -/
theorem apply_primaryKey_of_some {key : PrimaryKey} (h : change.primaryKey? = some key) :
    (s.apply change).primaryKey = some key := by
  cases change <;> simp_all [TableChange.primaryKey?, TableState.apply]

/-- Without one the primary key stays as it is, unless it or one of its columns is dropped. -/
theorem apply_primaryKey_of_none (h : change.primaryKey? = none) (hdrop : change ≠ .dropPrimaryKey)
    (hcolumn : ∀ d, change = .dropColumn d → ∀ key, s.primaryKey = some key →
      d ∉ namedColumns key.parts) :
    (s.apply change).primaryKey = s.primaryKey := by
  cases change with
  | dropPrimaryKey => exact absurd rfl hdrop
  | addPrimaryKey => cases h
  | addColumn name definition inline place =>
      have hnone : inline.primaryKey? name = none := h
      rw [apply, hnone, Option.none_or]
  | dropColumn d =>
      rw [apply]
      cases hkey : s.primaryKey with
      | none => rfl
      | some key => exact PrimaryKey.withoutColumn?_of_notMem (hcolumn d rfl key hkey)
  | _ => rfl

/-- So the columns that it starts with are covered. -/
theorem hasPrimaryKeyOn_of_primaryKey? {key : PrimaryKey} (hkey : change.primaryKey? = some key)
    (hstarts : columns <+: leadingColumns key.parts) :
    (s.apply change).HasPrimaryKeyOn columns :=
  ⟨key, apply_primaryKey_of_some hkey, hstarts⟩

/-- The primary key stays unless it or one of its columns is dropped; another one that takes its
place is to start with the same columns. -/
theorem HasPrimaryKeyOn.apply (h : s.HasPrimaryKeyOn columns) (hne : columns ≠ [])
    (hdrop : change ≠ .dropPrimaryKey)
    (hadd : ∀ key, change.primaryKey? = some key → columns <+: leadingColumns key.parts)
    (hcolumn : ∀ d ∈ columns, change ≠ .dropColumn d) :
    (s.apply change).HasPrimaryKeyOn columns := by
  cases hbrings : change.primaryKey? with
  | some key => exact hasPrimaryKeyOn_of_primaryKey? hbrings (hadd key hbrings)
  | none =>
      obtain ⟨key, hkey, hstarts⟩ := h
      by_cases hdropped : ∃ d, change = .dropColumn d
      · obtain ⟨d, rfl⟩ := hdropped
        have hd : d ∉ columns := fun hd => hcolumn d hd rfl
        have hrest := prefix_leadingColumns_partsWithout hstarts hd
        refine ⟨{ key with parts := partsWithout d key.parts }, ?_, hrest⟩
        simp [TableState.apply, hkey, PrimaryKey.withoutColumn?,
          ne_nil_of_prefix_leadingColumns hne hrest]
      · have hkept := apply_primaryKey_of_none (s := s) hbrings hdrop
          fun d hd => absurd ⟨d, hd⟩ hdropped
        exact ⟨key, hkept.trans hkey, hstarts⟩

/-- So it does in a whole run. -/
theorem HasPrimaryKeyOn.run {changes : List TableChange} (h : s.HasPrimaryKeyOn columns)
    (hne : columns ≠ []) (hdrop : .dropPrimaryKey ∉ changes)
    (hadd : ∀ change ∈ changes, ∀ key, change.primaryKey? = some key →
      columns <+: leadingColumns key.parts)
    (hcolumn : ∀ d ∈ columns, .dropColumn d ∉ changes) :
    (s.run changes).HasPrimaryKeyOn columns := by
  refine run_induction (P := fun t => t.HasPrimaryKeyOn columns) h ?_
  intro change hchange t ht
  refine ht.apply hne ?_ (hadd change hchange) ?_
  · rintro rfl
    exact hdrop hchange
  · rintro d hd rfl
    exact hcolumn d hd hchange

/-- A primary key that a run brings is there at its end, since primary keys are dropped before
others are brought. -/
theorem hasPrimaryKeyOn_run_of_primaryKey? {changes : List TableChange} {key : PrimaryKey}
    (s : TableState) (hsorted : changes.Pairwise fun a b => a.phase ≤ b.phase)
    (hmem : change ∈ changes) (hkey : change.primaryKey? = some key) (hne : columns ≠ [])
    (hadd : ∀ change ∈ changes, ∀ key, change.primaryKey? = some key →
      columns <+: leadingColumns key.parts)
    (hcolumn : ∀ d ∈ columns, .dropColumn d ∉ changes) :
    (s.run changes).HasPrimaryKeyOn columns := by
  refine run_establishes (P := fun t => t.HasPrimaryKeyOn columns) s hsorted hmem ?_ ?_
  · exact fun t => hasPrimaryKeyOn_of_primaryKey? hkey (hadd change hmem key hkey)
  · intro later hlater hphase t ht
    refine ht.apply hne ?_ (hadd later hlater) ?_
    · rintro rfl
      exact absurd ((TableChange.addColumn_le_of_primaryKey? hkey).trans hphase)
        (show ¬ Phase.addColumn ≤ .dropPrimaryKey by decide)
    · rintro d hd rfl
      exact hcolumn d hd hlater

end TableState

end SchemaMigration
