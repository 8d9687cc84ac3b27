import SchemaMigration.Proofs.Migration.AutoIncrement
import SchemaMigration.Proofs.Migration.KeyRoute

/-!
# One auto-increment column at a time

The server lets only one column of a table number its rows. A migration that hands this over
from one column to another has a moment between two of its changes at which neither of them does,
or one at which both do. Which of the two it is depends on where the change of the old one comes:
it must be in front of the change that makes the new one number rows.

## Main Definitions

* `TableState.autoIncrementColumns` - the columns that number rows at a moment
* `columnNames_run_nodup` - no two columns of a state have the same name
* `TableComparison.StopsBefore` - the change of one column comes before that of another
* `autoIncrementColumns_of_run` - when at most one column numbers rows at every moment

## Design Notes

Definitions of old columns are changed in the order of the old table, then columns are added, and
old ones are dropped last. So a column that goes away numbers rows longer than any other starts to.
-/

namespace SchemaMigration

/-- The name of the column that a change adds. -/
def TableChange.addedColumn? : TableChange → Option Text
  | addColumn name _ _ _ => some name
  | _ => none

/-- The name of the column that a change gives a definition. -/
def TableChange.definedColumn? : TableChange → Option Text
  | changeColumn name _ | addColumn name _ _ _ => some name
  | _ => none

namespace TableState

/-- The names of the columns that number rows by their current definition. -/
def autoIncrementColumns (s : TableState) : List Text :=
  (s.columns.filter fun column => mentionsAutoIncrement column.2).map (·.1)

theorem mem_autoIncrementColumns {s : TableState} {name : Text} :
    name ∈ s.autoIncrementColumns ↔
      ∃ definition, (name, definition) ∈ s.columns ∧ mentionsAutoIncrement definition = true := by
  simp [autoIncrementColumns]

@[simp] theorem ofTable_autoIncrementColumns (table : Table) :
    (ofTable table).autoIncrementColumns = table.autoIncrementColumns := by
  simp only [autoIncrementColumns, ofTable, Table.autoIncrementColumns, List.filter_map,
    List.map_map]
  rfl

/-- A column is there once. -/
theorem insert_perm (column : Text × Text) (columns : List (Text × Text)) (place : Placement) :
    (place.insert column columns).Perm (column :: columns) := by
  have hafter : ∀ previous, (insertAfter previous column columns).Perm (column :: columns) := by
    intro previous
    induction columns with
    | nil => exact List.Perm.refl _
    | cons first rest ih =>
        rw [insertAfter]
        split
        · exact List.Perm.swap _ _ _
        · exact (ih.cons first).trans (List.Perm.swap _ _ _)
  cases place with
  | first => exact List.Perm.refl _
  | last => exact List.perm_append_singleton _ _
  | after previous => exact hafter previous

/-- Names of columns stay distinct if those that are added are new. -/
theorem columnNames_run_nodup {s : TableState} {changes : List TableChange}
    (h : (s.columnNames ++ changes.filterMap (·.addedColumn?)).Nodup) :
    (s.run changes).columnNames.Nodup := by
  induction changes generalizing s with
  | nil => simpa using h
  | cons change rest ih =>
      refine ih ?_
      cases change with
      | addColumn name definition key place =>
          have hperm : (s.apply (.addColumn name definition key place)).columnNames.Perm
              (name :: s.columnNames) := (insert_perm _ _ _).map _
          have hmove : ((name :: s.columnNames) ++ rest.filterMap (·.addedColumn?)).Perm
              (s.columnNames ++ name :: rest.filterMap (·.addedColumn?)) :=
            List.perm_middle.symm
          exact ((hperm.append_right _).trans hmove).nodup_iff.mpr h
      | dropColumn name =>
          have hsub : (s.apply (.dropColumn name)).columnNames.Sublist s.columnNames :=
            List.filter_sublist.map _
          exact h.sublist (hsub.append_right _)
      | changeColumn name definition =>
          rw [apply_changeColumn_columnNames]
          exact h
      | _ => exact h

/-- A column with its definition stays until it is changed or dropped. -/
theorem mem_columns_run_of_mem {s : TableState} {changes : List TableChange} {e : Text × Text}
    (he : e ∈ s.columns) (hchange : ∀ definition, .changeColumn e.1 definition ∉ changes)
    (hdrop : .dropColumn e.1 ∉ changes) : e ∈ (s.run changes).columns := by
  refine run_induction (P := fun t => e ∈ t.columns) he ?_
  intro change hmem t ht
  cases change with
  | changeColumn name definition =>
      refine List.mem_map.mpr ⟨e, ht, if_neg ?_⟩
      rintro rfl
      exact hchange _ hmem
  | addColumn => exact mem_insert.mpr (Or.inr ht)
  | dropColumn name =>
      refine List.mem_filter.mpr ⟨ht, ?_⟩
      rw [bne_iff_ne]
      rintro rfl
      exact hdrop hmem
  | _ => exact ht

/-- A column stays until it is dropped. -/
theorem mem_columnNames_run_of_mem {s : TableState} {changes : List TableChange} {name : Text}
    (hname : name ∈ s.columnNames) (hdrop : .dropColumn name ∉ changes) :
    name ∈ (s.run changes).columnNames := by
  refine run_induction (P := fun t => name ∈ t.columnNames) hname ?_
  intro change hmem t ht
  cases change with
  | changeColumn name definition =>
      rw [apply_changeColumn_columnNames]
      exact ht
  | addColumn => exact mem_map_insert.mpr (Or.inr ht)
  | dropColumn other =>
      rw [apply_dropColumn_columnNames, List.mem_filter, bne_iff_ne]
      refine ⟨ht, ?_⟩
      rintro rfl
      exact hdrop hmem
  | _ => exact ht

/-- A column that stops to number rows without being dropped is changed. -/
theorem exists_changeColumn_mem {s : TableState} {changes : List TableChange} {name : Text}
    (h : name ∈ s.autoIncrementColumns) (hdrop : .dropColumn name ∉ changes)
    (hstopped : name ∉ (s.run changes).autoIncrementColumns) :
    ∃ definition, .changeColumn name definition ∈ changes := by
  by_contra hnone
  obtain ⟨definition, hmem, hauto⟩ := mem_autoIncrementColumns.mp h
  have hstays := mem_columns_run_of_mem hmem (not_exists.mp hnone) hdrop
  exact hstopped (mem_autoIncrementColumns.mpr ⟨definition, hstays, hauto⟩)

end TableState

namespace TableComparison

variable {c : TableComparison} {p : Phase} {done rest : List TableChange}

/-- A column that numbers rows in the old table is changed before another one of the new table
can start to: both tables have it, and no old column of the other name stands in front of it. -/
def StopsBefore (c : TableComparison) (x y : Text) : Prop :=
  x ∈ c.new.columnNames ∧ ∀ a ∈ c.old.columns, ∀ b ∈ c.old.columns,
    a.name = x → b.name = y → a.position < b.position

instance (c : TableComparison) (x y : Text) : Decidable (c.StopsBefore x y) :=
  inferInstanceAs (Decidable (x ∈ c.new.columnNames ∧ ∀ a ∈ c.old.columns, ∀ b ∈ c.old.columns,
    a.name = x → b.name = y → a.position < b.position))

/-- The columns of the changes that add one are the added columns. -/
theorem filterMap_addedColumn? :
    c.changes.filterMap (·.addedColumn?) = c.addedColumns.map (·.name) := by
  have hphase : ∀ change : TableChange, change.addedColumn? ≠ none →
      change.phase = .addColumn := by
    intro change hadds
    cases change <;> first | rfl | exact absurd rfl hadds
  have hbehind : ∀ (columns : List Column) (placed : List Text),
      ((c.additionsBehind placed columns).map (·.change)).filterMap (·.addedColumn?)
        = columns.map (·.name) := by
    intro columns
    induction columns with
    | nil => exact fun _ => rfl
    | cons column columns ih =>
        intro placed
        exact congrArg (column.name :: ·) (ih _)
  have hfilter : c.changes.filterMap (·.addedColumn?)
      = (c.changes.filter fun change => change.phase = .addColumn).filterMap (·.addedColumn?) := by
    rw [List.filterMap_filter]
    refine List.filterMap_congr ?_
    intro change _
    split
    · rfl
    · rename_i hother
      by_contra hadds
      exact hother (decide_eq_true (hphase change hadds))
  rw [hfilter, filter_phase_changes, changesIn_addColumn]
  exact hbehind _ _

/-- At every moment the columns have distinct names. -/
theorem columnNames_nodup (hold : c.old.WellFormed) (hnew : c.new.WellFormed) (k : Nat) :
    ((TableState.ofTable c.old).run (c.changes.take k)).columnNames.Nodup := by
  have hadded : ((c.changes.take k).filterMap (·.addedColumn?)).Sublist
      (c.addedColumns.map (·.name)) := by
    rw [← filterMap_addedColumn?]
    exact (List.take_sublist _ _).filterMap _
  refine TableState.columnNames_run_nodup ?_
  rw [TableState.ofTable_columnNames]
  exact (oldNames_addedNames_nodup hold hnew).sublist (hadded.append_left _)

/-- Old columns are changed in their order, and before any column is added. -/
theorem pairwise_changeColumn (hold : c.old.WellFormed) : c.changes.Pairwise fun first second =>
    ∀ x y definition, first.definedColumn? = some x → second = .changeColumn y definition →
      ∃ a ∈ c.old.columns, ∃ b ∈ c.old.columns, a.name = x ∧ b.name = y ∧
        a.position < b.position := by
  have hpositions : c.old.columns.Pairwise fun a b => a.position < b.position := by
    rw [← List.pairwise_map (f := Column.position), hold.columns_position]
    exact List.pairwise_lt_range
  have hphase : (c.changes.filter fun change => change.phase = .changeColumn).Pairwise
      fun first second => ∀ x d y e, first = .changeColumn x d → second = .changeColumn y e →
        ∃ a ∈ c.old.columns, ∃ b ∈ c.old.columns, a.name = x ∧ b.name = y ∧
          a.position < b.position := by
    rw [filter_phase_changes, changesIn_changeColumn, List.pairwise_filterMap]
    refine hpositions.imp_of_mem ?_
    rintro a b ha hb hlt first hfirst second hsecond x d y e rfl rfl
    obtain ⟨_, -, hx⟩ := Option.map_eq_some_iff.mp hfirst
    obtain ⟨_, -, hy⟩ := Option.map_eq_some_iff.mp hsecond
    exact ⟨a, ha, b, hb, (TableChange.changeColumn.inj hx).1, (TableChange.changeColumn.inj hy).1,
      hlt⟩
  refine ((List.pairwise_filter.mp hphase).and c.pairwise_changes).imp ?_
  rintro first second ⟨hchanges, hle⟩ x y e hfirst rfl
  cases first with
  | changeColumn name d =>
      obtain rfl := Option.some.inj hfirst
      exact hchanges rfl rfl name d y e rfl rfl
  | addColumn => exact absurd hle (show ¬ Phase.addColumn ≤ .changeColumn by decide)
  | _ => cases hfirst

/-- A column that numbers rows at a moment does so in the old table, or in the new table and has
been given a definition. -/
theorem Parting.origin (h : c.Parting p done rest) {x : Text}
    (hx : x ∈ ((TableState.ofTable c.old).run done).autoIncrementColumns) :
    x ∈ c.old.autoIncrementColumns ∨
      x ∈ c.new.autoIncrementColumns ∧ ∃ change ∈ done, change.definedColumn? = some x := by
  obtain ⟨definition, hmem, hauto⟩ := TableState.mem_autoIncrementColumns.mp hx
  have hnew : ∀ column ∈ c.new.columns, column.name = x → column.definition = definition →
      x ∈ c.new.autoIncrementColumns := by
    rintro column hcolumn rfl rfl
    exact List.mem_map_of_mem (List.mem_filter.mpr ⟨hcolumn, hauto⟩)
  rcases TableState.mem_columns_run hmem with hbefore | hchange | ⟨key, place, hadd⟩
  · left
    rw [← TableState.ofTable_autoIncrementColumns]
    exact TableState.mem_autoIncrementColumns.mpr ⟨definition, hbefore, hauto⟩
  · obtain ⟨column, hcolumn, hdefinition⟩ := new_column?_of_changeColumn (h.mem_of_done hchange)
    obtain ⟨hcolumn, hname⟩ := mem_of_find?_eq_some hcolumn
    exact Or.inr ⟨hnew column hcolumn hname hdefinition, _, hchange, rfl⟩
  · obtain ⟨column, hcolumn, hname, hdefinition, -⟩ := addColumn_mem (h.mem_of_done hadd)
    exact Or.inr ⟨hnew column (mem_addedColumns.mp hcolumn).1 hname hdefinition, _, hadd, rfl⟩

/-- A column does not number rows any more when one has been given a definition behind it. -/
theorem Parting.notMem_of_stopsBefore (h : c.Parting p done rest) (hold : c.old.WellFormed)
    (hnew : c.new.WellFormed) (htolerant : c.options.tolerant = false) {x y : Text}
    (hstops : c.StopsBefore x y) (hxOld : x ∈ c.old.autoIncrementColumns)
    (hxNew : x ∉ c.new.autoIncrementColumns)
    (hy : ∃ change ∈ done, change.definedColumn? = some y) :
    x ∉ ((TableState.ofTable c.old).run done).autoIncrementColumns := by
  intro hx
  obtain ⟨definition, hmem, hauto⟩ := TableState.mem_autoIncrementColumns.mp hx
  obtain ⟨column, hcolumn, rfl⟩ := List.mem_map.mp hxOld
  obtain ⟨hcolumn, hcolumnAuto⟩ := List.mem_filter.mp hcolumn
  obtain ⟨new, hnewMem, hname⟩ := List.mem_map.mp hstops.1
  have hfound : c.new.column? column.name = some new := by
    rw [← hname]
    exact hnew.column?_eq_some hnewMem
  have hplain : ¬ new.isAutoIncrement = true := by
    intro hnewAuto
    refine hxNew ?_
    rw [← hname]
    exact List.mem_map_of_mem (List.mem_filter.mpr ⟨hnewMem, hnewAuto⟩)
  have hchange : .changeColumn column.name new.definition ∈ c.changes := by
    refine changeColumn_mem_of_ne htolerant hcolumn hfound ?_
    intro hsame
    rw [Column.isAutoIncrement, hsame] at hcolumnAuto
    exact hplain hcolumnAuto
  have hdone : .changeColumn column.name new.definition ∈ done := by
    rw [← h.whole] at hchange
    refine (List.mem_append.mp hchange).resolve_right ?_
    intro hrest
    obtain ⟨first, hfirst, hdefines⟩ := hy
    have horder := c.pairwise_changeColumn hold
    rw [← h.whole, List.pairwise_append] at horder
    obtain ⟨b, hb, a, ha, hbname, haname, hlt⟩ :=
      horder.2.2 first hfirst _ hrest y column.name new.definition hdefines rfl
    exact absurd (hstops.2 a ha b hb haname hbname) (not_lt_of_gt hlt)
  have hdefinition : definition = new.definition :=
    h.definition_eq_of_mem_columns hmem (List.mem_map_of_mem hcolumn) hfound hdone
  rw [hdefinition] at hauto
  exact hplain hauto

/-- If every column stops to number rows before another one starts to, no two columns do so at the
same moment. -/
theorem Parting.eq_of_autoIncrementColumns (h : c.Parting p done rest) (hold : c.old.WellFormed)
    (hnew : c.new.WellFormed) (htolerant : c.options.tolerant = false)
    (holdAuto : c.old.autoIncrementColumns.length ≤ 1)
    (hnewAuto : c.new.autoIncrementColumns.length ≤ 1)
    (hstops : ∀ x ∈ c.old.autoIncrementColumns, ∀ y ∈ c.new.autoIncrementColumns, x ≠ y →
      c.StopsBefore x y) {x y : Text}
    (hx : x ∈ ((TableState.ofTable c.old).run done).autoIncrementColumns)
    (hy : y ∈ ((TableState.ofTable c.old).run done).autoIncrementColumns) : x = y := by
  -- A column that has not stopped excludes one that has started.
  have hexclude : ∀ {x y : Text},
      x ∈ ((TableState.ofTable c.old).run done).autoIncrementColumns →
      x ∈ c.old.autoIncrementColumns → y ∈ c.new.autoIncrementColumns →
      (∃ change ∈ done, change.definedColumn? = some y) → x = y := by
    intro x y hx hxOld hyNew hy
    by_contra hne
    refine h.notMem_of_stopsBefore hold hnew htolerant (hstops x hxOld y hyNew hne) hxOld ?_ hy hx
    intro hxNew
    exact hne (eq_of_length_le_one hnewAuto hxNew hyNew)
  rcases h.origin hx with hxOld | ⟨hxNew, hxStarts⟩ <;>
    rcases h.origin hy with hyOld | ⟨hyNew, hyStarts⟩
  · exact eq_of_length_le_one holdAuto hxOld hyOld
  · exact hexclude hx hxOld hyNew hyStarts
  · exact (hexclude hy hyOld hxNew hxStarts).symm
  · exact eq_of_length_le_one hnewAuto hxNew hyNew

/-- A column that numbers rows only in the new table starts to with a change of its own. -/
theorem exists_start (hnew : c.new.WellFormed) (htolerant : c.options.tolerant = false) {y : Text}
    (hyNew : y ∈ c.new.autoIncrementColumns) (hyOld : y ∉ c.old.autoIncrementColumns) :
    ∃ change ∈ c.changes, change.definedColumn? = some y ∧
      ∀ t : TableState, (y ∈ c.old.columnNames → y ∈ t.columnNames) →
        y ∈ (t.apply change).autoIncrementColumns := by
  obtain ⟨new, hnewMem, rfl⟩ := List.mem_map.mp hyNew
  obtain ⟨hnewMem, hauto⟩ := List.mem_filter.mp hnewMem
  by_cases hcommon : new.name ∈ c.old.columnNames
  · obtain ⟨column, hcolumn, hname⟩ := List.mem_map.mp hcommon
    have hfound : c.new.column? column.name = some new := by
      rw [hname]
      exact hnew.column?_eq_some hnewMem
    have hne : column.definition ≠ new.definition := by
      intro hsame
      refine hyOld ?_
      rw [← hname]
      refine List.mem_map_of_mem (List.mem_filter.mpr ⟨hcolumn, ?_⟩)
      rw [Column.isAutoIncrement, hsame]
      exact hauto
    have hchange := changeColumn_mem_of_ne htolerant hcolumn hfound hne
    rw [hname] at hchange
    refine ⟨_, hchange, rfl, ?_⟩
    intro t ht
    obtain ⟨e, he, hename⟩ := List.mem_map.mp (ht hcommon)
    exact TableState.mem_autoIncrementColumns.mpr
      ⟨new.definition, List.mem_map.mpr ⟨e, he, if_pos hename⟩, hauto⟩
  · obtain ⟨place, hadd⟩ :=
      exists_addColumn_mem (mem_addedColumns.mpr ⟨hnewMem, find?_eq_none_iff.mpr hcommon⟩)
    refine ⟨_, hadd, rfl, ?_⟩
    intro t _
    exact TableState.mem_autoIncrementColumns.mpr
      ⟨new.definition, mem_insert.mpr (Or.inl rfl), hauto⟩

/-- A column of both tables is there at every moment. -/
theorem mem_columnNames_run_of_common {name : Text} (hold : name ∈ c.old.columnNames)
    (hnew : name ∈ c.new.columnNames) {done : List TableChange} (hdone : done ⊆ c.changes) :
    name ∈ ((TableState.ofTable c.old).run done).columnNames := by
  refine TableState.mem_columnNames_run_of_mem (by simpa using hold) ?_
  intro hdrop
  obtain ⟨column, -, hdrops, rfl⟩ := dropColumn_mem.mp (hdone hdrop)
  exact (dropsColumn_iff.mp hdrops).2 hnew

/-- No column is dropped before one is given a definition. -/
theorem dropColumn_notMem_front {front back : List TableChange} {change : TableChange}
    (hsplit : c.changes = front ++ change :: back) {x y : Text}
    (hdefines : change.definedColumn? = some y) : .dropColumn x ∉ front ++ [change] := by
  intro hdrop
  have hphase : change.phase ≤ .addColumn := by
    cases change with
    | changeColumn => exact (show Phase.changeColumn ≤ .addColumn by decide)
    | addColumn => exact le_refl _
    | _ => cases hdefines
  rcases List.mem_append.mp hdrop with hfront | hlast
  · have horder := c.pairwise_changes
    rw [hsplit, List.pairwise_append] at horder
    exact absurd ((horder.2.2 _ hfront change (by simp)).trans hphase)
      (show ¬ Phase.dropColumn ≤ .addColumn by decide)
  · rw [← List.mem_singleton.mp hlast] at hdefines
    cases hdefines

/-- If no two columns number rows at the same moment, the one of the old table has been changed
when another one starts to. -/
theorem changeColumn_mem_front_of_run
    (hsingle : ∀ k, ((TableState.ofTable c.old).run (c.changes.take k)).autoIncrementColumns.length
      ≤ 1) {x y : Text} (hx : x ∈ c.old.autoIncrementColumns) (hyNew : y ∈ c.new.columnNames)
    (hne : x ≠ y) {front back : List TableChange} {change : TableChange}
    (hsplit : c.changes = front ++ change :: back) (hdefines : change.definedColumn? = some y)
    (hstarts : ∀ t : TableState, (y ∈ c.old.columnNames → y ∈ t.columnNames) →
      y ∈ (t.apply change).autoIncrementColumns) :
    ∃ definition, .changeColumn x definition ∈ front := by
  have hstopped :
      x ∉ ((TableState.ofTable c.old).run (front ++ [change])).autoIncrementColumns := by
    have hmoment : c.changes.take (front ++ [change]).length = front ++ [change] := by
      rw [hsplit, List.append_cons front change back]
      exact List.take_left
    intro hstill
    have hlength := hsingle (front ++ [change]).length
    rw [hmoment, TableState.run_append] at hlength
    rw [TableState.run_append] at hstill
    refine hne (eq_of_length_le_one hlength hstill (hstarts _ fun hcommon => ?_))
    exact mem_columnNames_run_of_common hcommon hyNew (hsplit ▸ List.subset_append_left _ _)
  obtain ⟨definition, hstops⟩ := TableState.exists_changeColumn_mem
    (by rwa [TableState.ofTable_autoIncrementColumns])
    (dropColumn_notMem_front hsplit hdefines) hstopped
  refine ⟨definition, (List.mem_append.mp hstops).resolve_right ?_⟩
  intro hlast
  rw [← List.mem_singleton.mp hlast] at hdefines
  exact hne (Option.some.inj hdefines)

/-- If no two columns number rows at the same moment, the one of the old table stops before another
one starts to. -/
theorem stopsBefore_of_run (hold : c.old.WellFormed) (hnew : c.new.WellFormed)
    (htolerant : c.options.tolerant = false) (holdAuto : c.old.autoIncrementColumns.length ≤ 1)
    (hsingle : ∀ k, ((TableState.ofTable c.old).run (c.changes.take k)).autoIncrementColumns.length
      ≤ 1) {x y : Text} (hx : x ∈ c.old.autoIncrementColumns)
    (hy : y ∈ c.new.autoIncrementColumns) (hne : x ≠ y) : c.StopsBefore x y := by
  have hyOld : y ∉ c.old.autoIncrementColumns := fun h => hne (eq_of_length_le_one holdAuto hx h)
  obtain ⟨change, hchange, hdefines, hstarts⟩ := exists_start hnew htolerant hy hyOld
  obtain ⟨front, back, hsplit⟩ := List.append_of_mem hchange
  have hyNew : y ∈ c.new.columnNames := (List.filter_sublist.map _).subset hy
  obtain ⟨definition, hfront⟩ :=
    changeColumn_mem_front_of_run hsingle hx hyNew hne hsplit hdefines hstarts
  obtain ⟨new, hfound, -⟩ := new_column?_of_changeColumn
    (hsplit ▸ List.mem_append_left _ hfront : .changeColumn x definition ∈ c.changes)
  obtain ⟨hnewMem, hname⟩ := mem_of_find?_eq_some hfound
  refine ⟨List.mem_map.mpr ⟨new, hnewMem, hname⟩, ?_⟩
  rintro a ha b hb rfl rfl
  have horder := c.pairwise_changeColumn hold
  rw [hsplit, List.pairwise_append] at horder
  cases change with
  | changeColumn name e =>
      obtain rfl := Option.some.inj hdefines
      obtain ⟨a', ha', b', hb', haname, hbname, hlt⟩ :=
        horder.2.2 _ hfront _ (by simp) a.name b.name e rfl rfl
      rwa [← eq_of_key_eq hold.columnNames_nodup ha' ha haname,
        ← eq_of_key_eq hold.columnNames_nodup hb' hb hbname]
  | addColumn name e key place =>
      obtain rfl := Option.some.inj hdefines
      exact absurd hchange (addColumn_notMem (List.mem_map_of_mem hb))
  | _ => cases hdefines

/-- Behind any statements of a migration at most one column numbers rows just if the one that does
so in the old table, unless it is the one of the new table, is changed before that one is. Between
any two tables that were read and have at most one such column each, so it is if the former stays in
the table and the latter is a new column or stands behind it. -/
theorem autoIncrementColumns_of_run {oldText newText : Text}
    (hold : Table.parse oldText = .ok c.old) (hnew : Table.parse newText = .ok c.new)
    (holdAuto : c.old.autoIncrementColumns.length ≤ 1)
    (hnewAuto : c.new.autoIncrementColumns.length ≤ 1) (htolerant : c.options.tolerant = false) :
    List.Forall₂ (Statement.Alters c.name) c.statements c.changes ∧
    ((∀ k, ((TableState.ofTable c.old).run (c.changes.take k)).autoIncrementColumns.length ≤ 1) ↔
      ∀ x ∈ c.old.autoIncrementColumns, ∀ y ∈ c.new.autoIncrementColumns, x ≠ y →
        c.StopsBefore x y) := by
  have holdFormed : c.old.WellFormed := Table.wellFormed_of_parse hold
  have hnewFormed : c.new.WellFormed := Table.wellFormed_of_parse hnew
  refine ⟨c.alters_statements, ?_, ?_⟩
  · intro hsingle x hx y hy hne
    exact stopsBefore_of_run holdFormed hnewFormed htolerant holdAuto hsingle hx hy hne
  · intro hstops k
    obtain ⟨p, (h : c.Parting p (c.changes.take k) (c.changes.drop k))⟩ :=
      Phase.exists_parting c.pairwise_changes k
    have hnodup : ((TableState.ofTable c.old).run (c.changes.take k)).autoIncrementColumns.Nodup :=
      (columnNames_nodup holdFormed hnewFormed k).sublist (List.filter_sublist.map _)
    refine length_le_one hnodup ?_
    intro x hx y hy
    exact h.eq_of_autoIncrementColumns holdFormed hnewFormed htolerant holdAuto hnewAuto hstops
      hx hy

/-- A table of two columns with given definitions, each with its own index. -/
def pairText (first second : Text) : Text :=
  "CREATE TABLE t (\n  a " ++ first ++ ",\n  b " ++ second ++ ",\n  KEY a (a),\n  KEY b (b)\n);"

/-- That table. -/
def pairTable (first second : Text) : Table where
  name := "t"
  columns := [⟨"a", first, 0⟩, ⟨"b", second, 1⟩]
  indexes := [⟨"a", .plain, ["a"], []⟩, ⟨"b", .plain, ["b"], []⟩]
  primaryKey := none
  foreignKeys := []
  checks := []
  options := []
  definition := pairText first second

/-- The second column numbers rows, and then the first one. -/
def handedForward : TableComparison where
  old := pairTable "int" "int AUTO_INCREMENT"
  new := pairTable "int AUTO_INCREMENT" "int"
  options := .default
  incoming := []

/-- The first column numbers rows, and then the second one. -/
def handedBack : TableComparison where
  old := pairTable "int AUTO_INCREMENT" "int"
  new := pairTable "int" "int AUTO_INCREMENT"
  options := .default
  incoming := []

/-- Handed to a column in front, the numbering of rows is with both for a moment, handed to one
behind it never is. -/
theorem autoIncrementColumns_of_run_handed :
    (¬ ∀ k, ((TableState.ofTable handedForward.old).run
      (handedForward.changes.take k)).autoIncrementColumns.length ≤ 1) ∧
    ∀ k, ((TableState.ofTable handedBack.old).run
      (handedBack.changes.take k)).autoIncrementColumns.length ≤ 1 := by
  constructor
  · rw [(autoIncrementColumns_of_run
      (show Table.parse (pairText "int" "int AUTO_INCREMENT") = .ok handedForward.old by
        decide +kernel)
      (show Table.parse (pairText "int AUTO_INCREMENT" "int") = .ok handedForward.new by
        decide +kernel) (by decide +kernel) (by decide +kernel) rfl).2]
    decide +kernel
  · rw [(autoIncrementColumns_of_run
      (show Table.parse (pairText "int AUTO_INCREMENT" "int") = .ok handedBack.old by
        decide +kernel)
      (show Table.parse (pairText "int" "int AUTO_INCREMENT") = .ok handedBack.new by
        decide +kernel) (by decide +kernel) (by decide +kernel) rfl).2]
    decide +kernel

end TableComparison

end SchemaMigration
