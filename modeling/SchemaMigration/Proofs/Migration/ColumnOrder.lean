import SchemaMigration.Proofs.Migration.AutoIncrement
import SchemaMigration.Proofs.Migration.KeyRoute

/-!
# Columns and their order converge

A new column is placed behind the nearest column in front of it that is there when it is added,
whether an old one or one that was added before. Columns that go away may still be there and
stand in between, and columns may be added out of their turn, but those of the new table stand in
its order at every moment if those that both tables have do so at first. In the end no others are
left.

## Main Definitions

* `TableChange.isOnColumns` - the changes that columns depend on
* `TableComparison.IsAligned` - columns stand in the order of the new table
* `placement_cases` - where a new column goes
* `IsAligned.addColumn`, `IsAligned.dropColumn` - what keeps columns in order
* `columns_of_run` - the columns at the end of a migration
-/

namespace SchemaMigration

/-- Whether a change is one of columns. -/
def TableChange.isOnColumns : TableChange → Bool
  | changeColumn _ _ | addColumn _ _ _ _ | dropColumn _ => true
  | _ => false

theorem TableChange.isOnColumns_iff {change : TableChange} : change.isOnColumns = true ↔
    change.phase ∈ [Phase.changeColumn, .addColumn, .dropColumn] := by
  cases change <;> simp [isOnColumns, phase]

namespace TableState

/-- Only columns matter to columns. -/
theorem apply_columns_congr {s t : TableState} (h : s.columns = t.columns)
    (change : TableChange) : (s.apply change).columns = (t.apply change).columns := by
  cases change <;> simp [apply, h]

/-- Other changes may be left out. -/
theorem run_filter_columns {s t : TableState} (h : s.columns = t.columns)
    (changes : List TableChange) :
    (s.run (changes.filter (·.isOnColumns))).columns = (t.run changes).columns := by
  induction changes generalizing s t with
  | nil => exact h
  | cons change rest ih =>
      cases hon : change.isOnColumns with
      | true =>
          rw [List.filter_cons_of_pos hon]
          exact ih (apply_columns_congr h change)
      | false =>
          rw [List.filter_cons_of_neg (by simp [hon])]
          refine ih ?_
          rw [h]
          cases change <;> first | rfl | cases hon

/-- The columns that are left are those that are not dropped. -/
theorem mem_columnNames_run_dropColumn {s : TableState} {names : List Text} {x : Text} :
    x ∈ (s.run (names.map .dropColumn)).columnNames ↔ x ∈ s.columnNames ∧ x ∉ names := by
  induction names generalizing s with
  | nil => simp
  | cons name names ih =>
      rw [List.map_cons, run_cons, ih, apply_dropColumn_columnNames, List.mem_filter, bne_iff_ne,
        List.mem_cons, not_or, and_assoc]

end TableState

/-! ## Insertions -/

/-- A column that is inserted behind another stands right behind it. -/
theorem map_insertAfter {previous : Text} (column : Text × Text) {columns : List (Text × Text)}
    (h : previous ∈ columns.map (·.1)) : ∃ front back,
      columns.map (·.1) = front ++ previous :: back ∧
      (insertAfter previous column columns).map (·.1)
        = front ++ previous :: column.1 :: back := by
  induction columns with
  | nil => cases h
  | cons first rest ih =>
      rw [insertAfter]
      split
      · rename_i hfirst
        exact ⟨[], rest.map (·.1), by simp [hfirst], by simp [hfirst]⟩
      · rename_i hfirst
        have hrest : previous ∈ rest.map (·.1) :=
          (List.mem_cons.mp h).resolve_left fun hsame => hfirst hsame.symm
        obtain ⟨front, back, hcolumns, hinserted⟩ := ih hrest
        refine ⟨first.1 :: front, back, ?_, ?_⟩
        · rw [List.map_cons, hcolumns, List.cons_append]
        · rw [List.map_cons, hinserted, List.cons_append]

section Common

variable {α : Type} {front back before behind : List α} {a : α}

/-- Two lists have their common items in the same order, and an item that only the second has is
inserted into the first. If what stands in front of it there is what stands in front of it in the
second list, and likewise behind it, they still have their common items in the same order. -/
theorem filter_mem_insert [BEq α] [LawfulBEq α] (hnodup : (before ++ a :: behind).Nodup)
    (ha : a ∉ front ++ back)
    (hfront : front.filter (· ∈ before ++ a :: behind) = before.filter (· ∈ front ++ back))
    (hback : back.filter (· ∈ before ++ a :: behind) = behind.filter (· ∈ front ++ back)) :
    (front ++ a :: back).filter (· ∈ before ++ a :: behind)
      = (before ++ a :: behind).filter (· ∈ front ++ a :: back) := by
  have hother : ∀ items : List α, a ∉ items →
      items.filter (· ∈ front ++ a :: back) = items.filter (· ∈ front ++ back) := by
    intro items hitems
    refine List.filter_congr ?_
    intro x hx
    have hne : x ≠ a := by
      rintro rfl
      exact hitems hx
    simp [hne]
  obtain ⟨-, hbehind, hcross⟩ := List.nodup_append.mp hnodup
  have hbefore : a ∉ before := fun hin => hcross a hin a (by simp) rfl
  rw [List.filter_append, List.filter_cons_of_pos (by simp), hfront, hback, List.filter_append,
    List.filter_cons_of_pos (by simp), hother before hbefore,
    hother behind (List.nodup_cons.mp hbehind).1]

/-- If choosing from two lists gives the same, and both choose an item that is in the second only
once, then what is in front of that item and what is behind it give the same too. In the second
list it is enough that nothing is chosen between the item and a cut. -/
theorem filter_split {p q : α → Bool} {middle : List α} (hp : p a = true) (hq : q a = true)
    (hmiddle : ∀ x ∈ middle, q x = false) (hbefore : a ∉ before) (hbehind : a ∉ behind)
    (h : (front ++ a :: back).filter p
      = (before ++ a :: middle).filter q ++ behind.filter q) :
    (front ++ [a]).filter p = (before ++ a :: middle).filter q ∧
      back.filter p = behind.filter q := by
  have hnone : middle.filter q = [] := by
    rw [List.filter_eq_nil_iff]
    intro x hx
    simp [hmiddle x hx]
  have hcut : (before ++ a :: middle).filter q = before.filter q ++ [a] := by
    rw [List.filter_append, List.filter_cons_of_pos hq, hnone]
  rw [hcut, List.append_assoc, List.singleton_append, List.filter_append,
    List.filter_cons_of_pos hp] at h
  obtain ⟨hfront, -, hback⟩ := (List.append_cons_inj_of_notMem
    (fun hmem => hbefore (List.mem_filter.mp hmem).1)
    (fun hmem => hbehind (List.mem_filter.mp hmem).1)).mp h.symm
  refine ⟨?_, hback.symm⟩
  rw [hcut, hfront, List.filter_append, List.filter_cons_of_pos hp, List.filter_nil]

end Common

namespace TableComparison

variable {c : TableComparison} {s : TableState}

/-- Of the columns of a state, those that the new table has too stand in its order. -/
def IsAligned (c : TableComparison) (s : TableState) : Prop :=
  s.columnNames.filter (· ∈ c.new.columnNames) = c.new.columnNames.filter (· ∈ s.columnNames)

/-- Only the names of the columns matter. -/
theorem IsAligned.congr {t : TableState} (h : c.IsAligned s)
    (hnames : t.columnNames = s.columnNames) : c.IsAligned t := by
  unfold IsAligned
  rw [hnames]
  exact h

/-- A column of the new table goes behind the nearest one in front of it that is there, first if
none is, and to the end if it is the last. -/
theorem placement_cases (placed : List Text) {column : Column} {before behind : List Column}
    (hcolumns : c.new.columns = before ++ column :: behind)
    (hposition : column.position = before.length) :
    (c.placement placed column = .first ∧ ∀ x ∈ before.map (·.name), x ∉ placed) ∨
    (c.placement placed column = .last ∧ behind = []) ∨
    ∃ front previous between, c.placement placed column = .after previous ∧
      before.map (·.name) = front ++ previous :: between ∧ previous ∈ placed ∧
      ∀ x ∈ between, x ∉ placed := by
  have hbefore : c.new.columns.take column.position = before := by
    rw [hcolumns, hposition, List.take_left]
  rw [placement, hbefore]
  split
  · rename_i hfirst
    have hnone : before = [] := List.length_eq_zero_iff.mp (hposition ▸ hfirst)
    exact Or.inl ⟨rfl, by simp [hnone]⟩
  · split
    · rename_i hlast
      refine Or.inr (Or.inl ⟨rfl, ?_⟩)
      rw [hcolumns, List.length_append, List.length_cons, hposition] at hlast
      exact List.length_eq_zero_iff.mp (by omega)
    · split
      · rename_i previous hfound
        rw [List.find?_eq_some_iff_append] at hfound
        obtain ⟨hplaced, between, front, hreverse, hbetween⟩ := hfound
        have hsplit : before = front.reverse ++ previous :: between.reverse := by
          rw [← List.reverse_reverse before, hreverse]
          simp
        refine Or.inr (Or.inr ⟨front.reverse.map (·.name), previous.name,
          between.reverse.map (·.name), rfl, by simp [hsplit], by simpa using hplaced, ?_⟩)
        intro x hx
        obtain ⟨other, hother, rfl⟩ := List.mem_map.mp hx
        simpa using hbetween other (List.mem_reverse.mp hother)
      · rename_i hnone
        rw [List.find?_eq_none] at hnone
        refine Or.inl ⟨rfl, ?_⟩
        intro x hx
        obtain ⟨other, hother, rfl⟩ := List.mem_map.mp hx
        simpa using hnone other (List.mem_reverse.mpr hother)

section Added

variable {before behind : List Text} {name : Text}

/-- As long as a column of the new table is missing, those that are there stand in front of it or
behind it in the new table. -/
theorem IsAligned.filter_eq (h : c.IsAligned s)
    (hnew : c.new.columnNames = before ++ name :: behind) (hfree : name ∉ s.columnNames) :
    s.columnNames.filter (· ∈ c.new.columnNames)
      = before.filter (· ∈ s.columnNames) ++ behind.filter (· ∈ s.columnNames) := by
  have haligned : s.columnNames.filter (· ∈ c.new.columnNames)
      = c.new.columnNames.filter (· ∈ s.columnNames) := h
  rw [haligned, hnew, List.filter_append, List.filter_cons_of_neg (by simpa using hfree)]

/-- It is enough that the column is put between the two. -/
theorem isAligned_of_inserted {t : TableState} {front back : List Text}
    (hnew : c.new.columnNames = before ++ name :: behind) (hnodup : c.new.columnNames.Nodup)
    (hfree : name ∉ s.columnNames) (hthere : s.columnNames = front ++ back)
    (hinserted : t.columnNames = front ++ name :: back)
    (hfront : front.filter (· ∈ c.new.columnNames) = before.filter (· ∈ s.columnNames))
    (hback : back.filter (· ∈ c.new.columnNames) = behind.filter (· ∈ s.columnNames)) :
    c.IsAligned t := by
  rw [hthere] at hfree hfront hback
  rw [hnew] at hnodup hfront hback
  rw [IsAligned, hinserted, hnew]
  exact filter_mem_insert hnodup hfree hfront hback

end Added

/-- A new column is put at its place among those that are there. -/
theorem IsAligned.addColumn (h : c.IsAligned s) (hnew : c.new.WellFormed) {placed : List Text}
    (hplaced : ∀ x, x ∈ placed ↔ x ∈ s.columnNames) {column : Column}
    (hcolumn : column ∈ c.new.columns) (hfree : column.name ∉ s.columnNames) (key : InlineKey) :
    c.IsAligned (s.apply (.addColumn column.name column.definition key
      (c.placement placed column))) := by
  obtain ⟨before, behind, hcolumns, hposition⟩ := hnew.exists_columns_eq_append hcolumn
  have hnames : c.new.columnNames
      = before.map (·.name) ++ column.name :: behind.map (·.name) := by
    rw [Table.columnNames, hcolumns, List.map_append, List.map_cons]
  have hthere := h.filter_eq hnames hfree
  have hnodup := hnew.columnNames_nodup
  rcases c.placement_cases placed hcolumns hposition with
    ⟨hplace, hnone⟩ | ⟨hplace, hlast⟩ |
      ⟨front, previous, middle, hplace, hbefore, hprevious, hnone⟩
  · have hfront : (before.map (·.name)).filter (· ∈ s.columnNames) = [] := by
      rw [List.filter_eq_nil_iff]
      intro x hx
      simpa using fun hin => hnone x hx ((hplaced x).mpr hin)
    rw [hfront, List.nil_append] at hthere
    refine isAligned_of_inserted hnames hnodup hfree (List.nil_append _).symm ?_ hfront.symm hthere
    rw [hplace]
    rfl
  · rw [hlast, List.map_nil, List.filter_nil, List.append_nil] at hthere
    refine isAligned_of_inserted hnames hnodup hfree (List.append_nil _).symm ?_ hthere
      (by simp [hlast])
    rw [hplace]
    simp [TableState.columnNames, TableState.apply, Placement.insert]
  · obtain ⟨ahead, back, hsplit, hinserted⟩ :=
      map_insertAfter (column.name, column.definition) ((hplaced previous).mp hprevious)
    have hstate : s.columnNames = ahead ++ previous :: back := hsplit
    have hpresent : previous ∈ s.columnNames := (hplaced previous).mp hprevious
    have hknown : previous ∈ c.new.columnNames := by simp [hnames, hbefore]
    -- Names do not repeat, so the stretches around the previous column are told by it.
    rw [hnames, hbefore, List.append_assoc] at hnodup
    obtain ⟨-, hrest, hcross⟩ := List.nodup_append.mp hnodup
    have hfront : previous ∉ front := fun hin => hcross previous hin previous (by simp) rfl
    have hbehind : previous ∉ behind.map (·.name) := by
      intro hin
      refine (List.nodup_cons.mp hrest).1 (List.mem_append_right _ ?_)
      exact List.mem_cons_of_mem _ hin
    have hparts : (ahead ++ previous :: back).filter (· ∈ c.new.columnNames)
        = (front ++ previous :: middle).filter (· ∈ s.columnNames) ++
          (behind.map (·.name)).filter (· ∈ s.columnNames) := by
      rw [← hstate, ← hbefore]
      exact hthere
    obtain ⟨hahead, hback⟩ := filter_split (by simpa using hknown) (by simpa using hpresent)
      (fun x hx => by simpa using fun hin => hnone x hx ((hplaced x).mpr hin)) hfront hbehind
      hparts
    rw [← hbefore] at hahead
    have hwhole : s.columnNames = (ahead ++ [previous]) ++ back := by simp [hstate]
    refine isAligned_of_inserted hnames hnew.columnNames_nodup hfree hwhole ?_ hahead hback
    rw [hplace, TableState.columnNames, TableState.apply, Placement.insert, hinserted]
    simp

/-- A column that the new table does not have may go. -/
theorem IsAligned.dropColumn (h : c.IsAligned s) {name : Text} (hname : name ∉ c.new.columnNames) :
    c.IsAligned (s.apply (.dropColumn name)) := by
  have hstays : ∀ x ∈ c.new.columnNames, x ≠ name := by
    rintro x hx rfl
    exact hname hx
  have haligned : s.columnNames.filter (· ∈ c.new.columnNames)
      = c.new.columnNames.filter (· ∈ s.columnNames) := h
  rw [IsAligned, TableState.apply_dropColumn_columnNames, List.filter_filter]
  refine Eq.trans (List.filter_congr ?_) (haligned.trans (List.filter_congr ?_))
  · intro x _
    by_cases hx : x ∈ c.new.columnNames
    · simp [hx, hstays x hx]
    · simp [hx]
  · intro x hx
    simp [hstays x hx]

/-! ## Runs -/

/-- Columns that are added one after the other are put at their places. -/
theorem IsAligned.additionsBehind (hnew : c.new.WellFormed) {columns : List Column}
    (hcolumns : columns ⊆ c.new.columns) {placed : List Text} (h : c.IsAligned s)
    (hplaced : ∀ x, x ∈ placed ↔ x ∈ s.columnNames)
    (hnodup : (placed ++ columns.map (·.name)).Nodup) :
    c.IsAligned (s.run ((c.additionsBehind placed columns).map (·.change))) ∧
      ∀ x, x ∈ placed ++ columns.map (·.name) ↔
        x ∈ (s.run ((c.additionsBehind placed columns).map (·.change))).columnNames := by
  induction columns generalizing placed s with
  | nil => exact ⟨h, by simpa [TableComparison.additionsBehind] using hplaced⟩
  | cons column columns ih =>
      obtain ⟨hcolumn, hrest⟩ := List.cons_subset.mp hcolumns
      have hfree : column.name ∉ s.columnNames := by
        rw [← hplaced]
        exact fun hin => (List.nodup_append.mp hnodup).2.2 _ hin column.name (by simp) rfl
      have hwhole : placed ++ (column :: columns).map (·.name)
          = placed ++ [column.name] ++ columns.map (·.name) := by simp
      rw [hwhole] at hnodup ⊢
      refine ih hrest (h.addColumn hnew hplaced hcolumn hfree _) ?_ hnodup
      intro x
      rw [List.mem_append, List.mem_singleton, hplaced x, or_comm]
      exact (@mem_map_insert (column.name, column.definition) _ _ _).symm

/-- Of the changes on which columns depend, definitions come first, then new columns, then those
that go away. -/
theorem filter_isOnColumns (c : TableComparison) : c.changes.filter (·.isOnColumns)
    = c.changesIn .changeColumn ++ (c.changesIn .addColumn ++ c.changesIn .dropColumn) := by
  have hpiece : ∀ p, (c.changesIn p).filter (·.isOnColumns)
      = if p ∈ [Phase.changeColumn, .addColumn, .dropColumn] then c.changesIn p else [] := by
    intro p
    have hphase : ∀ change ∈ c.changesIn p, change.phase = p :=
      fun change hchange => of_decide_eq_true (List.mem_filter.mp hchange).2
    split
    · rename_i hp
      rw [List.filter_eq_self]
      intro change hchange
      rwa [TableChange.isOnColumns_iff, hphase change hchange]
    · rename_i hp
      rw [List.filter_eq_nil_iff]
      intro change hchange
      rwa [TableChange.isOnColumns_iff, hphase change hchange]
  have hwhole : c.changes = Phase.all.flatMap c.changesIn := rfl
  rw [hwhole, List.filter_flatMap]
  simp [hpiece, Phase.all]

/-- Columns that get other definitions stay where they are. -/
theorem run_changeColumn_columnNames :
    (s.run (c.changesIn .changeColumn)).columnNames = s.columnNames := by
  refine TableState.run_induction (P := fun t => t.columnNames = s.columnNames) rfl ?_
  intro change hchange t ht
  rw [changesIn_changeColumn] at hchange
  obtain ⟨column, -, hchange⟩ := List.mem_filterMap.mp hchange
  obtain ⟨new, -, rfl⟩ := Option.map_eq_some_iff.mp hchange
  rw [TableState.apply_changeColumn_columnNames, ht]

/-- All new columns are put at their places behind those of the old table. -/
theorem IsAligned.run_addColumn (h : c.IsAligned s) (hold : c.old.WellFormed)
    (hnew : c.new.WellFormed) (hnames : s.columnNames = c.old.columnNames) :
    c.IsAligned (s.run (c.changesIn .addColumn)) ∧
      ∀ x, x ∈ c.old.columnNames ++ c.addedColumns.map (·.name) ↔
        x ∈ (s.run (c.changesIn .addColumn)).columnNames := by
  rw [changesIn_addColumn, columnAdditions]
  exact h.additionsBehind hnew (fun column hcolumn => (mem_addedColumns.mp hcolumn).1)
    (fun x => by rw [hnames]) (oldNames_addedNames_nodup hold hnew)

/-- Once old and new columns are there and those that only the old table has are dropped, the
names are those of the new table, in its order. -/
theorem IsAligned.run_dropColumn (h : c.IsAligned s)
    (hthere : ∀ x, x ∈ c.old.columnNames ++ c.addedColumns.map (·.name) ↔ x ∈ s.columnNames) :
    (s.run (c.changesIn .dropColumn)).columnNames = c.new.columnNames := by
  have hdrops : c.changesIn .dropColumn = c.droppedNames.map .dropColumn := by
    rw [changesIn_dropColumn, droppedNames, List.map_map]
    rfl
  have haligned : c.IsAligned (s.run (c.changesIn .dropColumn)) := by
    rw [hdrops]
    refine TableState.run_induction (P := c.IsAligned) h ?_
    intro change hchange t ht
    obtain ⟨name, hname, rfl⟩ := List.mem_map.mp hchange
    exact ht.dropColumn (mem_droppedNames.mp hname).2
  have hleft : ∀ x, x ∈ (s.run (c.changesIn .dropColumn)).columnNames ↔ x ∈ c.new.columnNames := by
    intro x
    rw [hdrops, TableState.mem_columnNames_run_dropColumn, ← hthere, mem_droppedNames]
    constructor
    · rintro ⟨hin, hstays⟩
      rcases List.mem_append.mp hin with hold | hadded
      · by_contra hnew
        exact hstays ⟨hold, hnew⟩
      · obtain ⟨column, hcolumn, rfl⟩ := List.mem_map.mp hadded
        exact List.mem_map_of_mem (mem_addedColumns.mp hcolumn).1
    · exact fun hnew => ⟨newColumnNames_subset hnew, fun hdropped => hdropped.2 hnew⟩
  calc (s.run (c.changesIn .dropColumn)).columnNames
      = (s.run (c.changesIn .dropColumn)).columnNames.filter (· ∈ c.new.columnNames) := by
        rw [List.filter_eq_self.mpr fun x hx => by simpa using (hleft x).mp hx]
    _ = c.new.columnNames.filter (· ∈ (s.run (c.changesIn .dropColumn)).columnNames) := haligned
    _ = c.new.columnNames := by
        rw [List.filter_eq_self.mpr fun x hx => by simpa using (hleft x).mpr hx]

/-- So the names at the end of the migration are those of the new table, in its order, if those
that both tables have are in the same order at first. -/
theorem columnNames_of_run (hold : c.old.WellFormed) (hnew : c.new.WellFormed)
    (horder : c.IsAligned (TableState.ofTable c.old)) :
    ((TableState.ofTable c.old).run c.changes).columnNames = c.new.columnNames := by
  have hcolumns := TableState.run_filter_columns (s := TableState.ofTable c.old) rfl c.changes
  rw [TableState.columnNames, ← hcolumns, ← TableState.columnNames, filter_isOnColumns,
    TableState.run_append, TableState.run_append]
  have hnames : ((TableState.ofTable c.old).run (c.changesIn .changeColumn)).columnNames
      = c.old.columnNames := by
    rw [run_changeColumn_columnNames, TableState.ofTable_columnNames]
  obtain ⟨hadded, hthere⟩ :=
    (horder.congr run_changeColumn_columnNames).run_addColumn hold hnew hnames
  exact hadded.run_dropColumn hthere

/-- Without tolerance every column at the end of the migration is one of the new table, with its
definition there. -/
theorem mem_new_of_mem_run (htolerant : c.options.tolerant = false) {e : Text × Text}
    (he : e ∈ ((TableState.ofTable c.old).run c.changes).columns) :
    e ∈ (TableState.ofTable c.new).columns := by
  have hend : c.Parting .partitionTable c.changes [] := {
    whole := List.append_nil _
    le_of_done := fun _ _ => Phase.le_partitionTable _
    le_of_rest := fun _ h => absurd h List.not_mem_nil }
  by_cases hold : e.1 ∈ c.old.columnNames
  · exact hend.mem_new_of_mem_columns htolerant (by decide) he hold
  · rcases TableState.mem_columns_run he with hbefore | hchange | ⟨key, place, hadd⟩
    · obtain ⟨column, hcolumn, rfl⟩ := List.mem_map.mp hbefore
      exact absurd (List.mem_map_of_mem hcolumn) hold
    · obtain ⟨column, hcolumn, -, -, hname, -⟩ := changeColumn_mem.mp hchange
      exact absurd (hname ▸ List.mem_map_of_mem hcolumn) hold
    · obtain ⟨column, hcolumn, hname, hdefinition, -⟩ := addColumn_mem hadd
      exact List.mem_map.mpr ⟨column, (mem_addedColumns.mp hcolumn).1, Prod.ext hname hdefinition⟩

/-- Columns converge: between any two tables that were read, without tolerance, the columns behind
the statements of a migration are those of the new table with their definitions, in its order, if
the columns that both tables have are in the same order in both. For that the statements that
change, add and drop columns alone count. -/
theorem columns_of_run {oldText newText : Text} (hold : Table.parse oldText = .ok c.old)
    (hnew : Table.parse newText = .ok c.new) (htolerant : c.options.tolerant = false)
    (horder : c.old.columnNames.filter (· ∈ c.new.columnNames)
      = c.new.columnNames.filter (· ∈ c.old.columnNames)) :
    List.Forall₂ (Statement.Alters c.name) c.statements c.changes ∧
      List.Forall₂ (Statement.Alters c.name)
        (c.statements.filter (·.phase ∈ [Phase.changeColumn, .addColumn, .dropColumn]))
        (c.changes.filter (·.isOnColumns)) ∧
      ((TableState.ofTable c.old).run (c.changes.filter (·.isOnColumns))).columns
        = c.new.columns.map (fun column => (column.name, column.definition)) ∧
      ((TableState.ofTable c.old).run c.changes).columns
        = c.new.columns.map (fun column => (column.name, column.definition)) := by
  have hold := Table.wellFormed_of_parse hold
  have hnew := Table.wellFormed_of_parse hnew
  have haligned : c.IsAligned (TableState.ofTable c.old) := by
    rwa [IsAligned, TableState.ofTable_columnNames]
  have hwhole : ((TableState.ofTable c.old).run c.changes).columns
      = (TableState.ofTable c.new).columns := by
    have hnodup : ((TableState.ofTable c.new).columns.map (·.1)).Nodup := by
      rw [← TableState.columnNames, TableState.ofTable_columnNames]
      exact hnew.columnNames_nodup
    have hnames : ((TableState.ofTable c.old).run c.changes).columns.map (·.1)
        = (TableState.ofTable c.new).columns.map (·.1) := by
      rw [← TableState.columnNames, ← TableState.columnNames, TableState.ofTable_columnNames]
      exact columnNames_of_run hold hnew haligned
    exact eq_of_map_key_eq hnodup hnames fun e he => mem_new_of_mem_run htolerant he
  have hcolumns : c.changes.filter (·.isOnColumns)
      = c.changes.filter (·.phase ∈ [Phase.changeColumn, .addColumn, .dropColumn]) := by
    refine List.filter_congr ?_
    intro change _
    rw [Bool.eq_iff_iff, TableChange.isOnColumns_iff, decide_eq_true_iff]
  refine ⟨c.alters_statements, ?_, (TableState.run_filter_columns rfl c.changes).trans hwhole,
    hwhole⟩
  rw [hcolumns]
  exact c.alters_filter_statements _

/-- Several columns are added to a table in which another one goes away. -/
def interleaved : TableComparison where
  old := {
    name := "t"
    columns := [⟨"a", "int", 0⟩, ⟨"gone", "int", 1⟩, ⟨"b", "int", 2⟩]
    indexes := []
    primaryKey := none
    foreignKeys := []
    checks := []
    options := []
    definition := "CREATE TABLE t (\n  a int,\n  gone int,\n  b int\n);" }
  new := {
    name := "t"
    columns := [⟨"x", "int", 0⟩, ⟨"a", "bigint", 1⟩, ⟨"id", "int AUTO_INCREMENT", 2⟩,
      ⟨"m", "int", 3⟩, ⟨"b", "int", 4⟩, ⟨"z", "int", 5⟩]
    indexes := []
    primaryKey := some ⟨["id"], []⟩
    foreignKeys := []
    checks := []
    options := []
    definition :=
      "CREATE TABLE t (\n  x int,\n  a bigint,\n  id int AUTO_INCREMENT,\n  m int,\n" ++
      "  b int,\n  z int,\n  PRIMARY KEY (id)\n);" }
  options := .default
  incoming := []

/-- There an auto-increment column is added behind all others and put in front of one of them,
while the column that goes away is still there. -/
theorem columns_of_run_interleaved :
    interleaved.changes = [.changeColumn "a" "bigint", .addColumn "x" "int" .none .first,
        .addColumn "m" "int" .none (.after "a"), .addColumn "z" "int" .none .last,
        .addColumn "id" "int AUTO_INCREMENT" .primaryKey (.after "a"), .dropColumn "gone"] ∧
      ((TableState.ofTable interleaved.old).run interleaved.changes).columns
        = interleaved.new.columns.map fun column => (column.name, column.definition) := by
  refine ⟨by decide +kernel, (columns_of_run
    (show Table.parse interleaved.old.definition = .ok interleaved.old by decide +kernel)
    (show Table.parse interleaved.new.definition = .ok interleaved.new by decide +kernel)
    rfl (by decide +kernel)).2.2.2⟩

end TableComparison

end SchemaMigration
