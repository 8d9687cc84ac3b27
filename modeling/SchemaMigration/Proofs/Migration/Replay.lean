import SchemaMigration.Proofs.KeyedList
import SchemaMigration.Proofs.Migration.KeyCover

/-!
# Replaying changes

The server lets a migration pass if it accepts every change in the state behind the changes
before. What it accepts depends on little of a state: which columns are there, the keys and the
constraints. That little is an outline, and changes of one sort turn one outline into another.

## Main Definitions

* `TableState.Replays` - the server lets every change of a list pass
* `Outline`, `TableState.Matches` - what acceptance depends on
* `Outline.Reaches` - changes that pass wherever an outline is given, and lead to another one
* `Outline.reaches_drops`, `Outline.reaches_adds` - several changes of one sort
-/

namespace SchemaMigration

namespace TableState

/-- The server lets every change of a list pass: it accepts each in the state behind those in
front of it. -/
def Replays (s : TableState) (changes : List TableChange) : Prop :=
  ∀ front change back, changes = front ++ change :: back → (s.run front).Accepts change

theorem replays_nil (s : TableState) : s.Replays [] := by
  intro front change back h
  simp at h

theorem replays_singleton {s : TableState} {change : TableChange} (h : s.Accepts change) :
    s.Replays [change] := by
  intro front other back hsplit
  cases front with
  | nil =>
      obtain ⟨rfl, -⟩ := List.cons.inj hsplit
      exact h
  | cons first front =>
      have hlength := congrArg List.length hsplit
      simp at hlength

/-- What passes in the state behind changes that pass may be added to them. -/
theorem Replays.append {s : TableState} {front back : List TableChange} (h : s.Replays front)
    (h' : (s.run front).Replays back) : s.Replays (front ++ back) := by
  refine forall_split_append.mpr ⟨h, ?_⟩
  intro before change behind hsplit
  rw [run_append]
  exact h' before change behind hsplit

end TableState

/-- What the server looks at when it accepts changes of columns, keys and constraints. -/
structure Outline where
  columns : List Text
  indexes : List Index
  primaryKey : Option PrimaryKey
  foreignKeys : List ForeignKey
  checks : List CheckConstraint

/-- A state has the columns of an outline in some order, and its keys and constraints. -/
structure TableState.Matches (s : TableState) (o : Outline) : Prop where
  columns : ∀ x, x ∈ s.columnNames ↔ x ∈ o.columns
  indexes : s.indexes = o.indexes
  primaryKey : s.primaryKey = o.primaryKey
  foreignKeys : s.foreignKeys = o.foreignKeys
  checks : s.checks = o.checks

theorem TableState.Matches.hasColumns {s : TableState} {o : Outline} (h : s.Matches o)
    {parts : List Text} (hparts : namedColumns parts ⊆ o.columns) : s.HasColumns parts := by
  intro x hx
  exact (h.columns x).mpr (hparts hx)

namespace Outline

/-- The outline of a table. -/
def ofTable (table : Table) : Outline where
  columns := table.columnNames
  indexes := table.indexes
  primaryKey := table.primaryKey
  foreignKeys := table.foreignKeys
  checks := table.checks

theorem matches_ofTable (table : Table) : (TableState.ofTable table).Matches (ofTable table) where
  columns := by simp [ofTable]
  indexes := rfl
  primaryKey := rfl
  foreignKeys := rfl
  checks := rfl

/-- The outline with other indexes. -/
def withIndexes (o : Outline) (indexes : List Index) : Outline := { o with indexes }

/-- The outline with other foreign keys. -/
def withForeignKeys (o : Outline) (foreignKeys : List ForeignKey) : Outline :=
  { o with foreignKeys }

/-- The outline with other check constraints. -/
def withChecks (o : Outline) (checks : List CheckConstraint) : Outline := { o with checks }

/-- The outline with another primary key. -/
def withPrimaryKey (o : Outline) (primaryKey : Option PrimaryKey) : Outline := { o with primaryKey }

/-- The outline with one more column and the key that it brings. -/
def withColumn (o : Outline) (name : Text) (key : InlineKey) : Outline :=
  { o with
    columns := o.columns ++ [name]
    indexes := o.indexes ++ (key.index? name).toList
    primaryKey := (key.primaryKey? name).or o.primaryKey }

/-- Changes that pass in every state of an outline and lead to states of another. -/
def Reaches (o : Outline) (changes : List TableChange) (o' : Outline) : Prop :=
  ∀ s : TableState, s.Matches o → s.Replays changes ∧ (s.run changes).Matches o'

variable {o o' o'' : Outline} {change : TableChange} {front back changes : List TableChange}

theorem withIndexes_eq_self {indexes : List Index} (h : o.indexes = indexes) :
    o.withIndexes indexes = o := by
  rw [← h]
  rfl

theorem withForeignKeys_eq_self {keys : List ForeignKey} (h : o.foreignKeys = keys) :
    o.withForeignKeys keys = o := by
  rw [← h]
  rfl

theorem withChecks_eq_self {checks : List CheckConstraint} (h : o.checks = checks) :
    o.withChecks checks = o := by
  rw [← h]
  rfl

theorem withPrimaryKey_eq_self {key : Option PrimaryKey} (h : o.primaryKey = key) :
    o.withPrimaryKey key = o := by
  rw [← h]
  rfl

theorem reaches_nil : o.Reaches [] o := fun s hs => ⟨s.replays_nil, hs⟩

theorem Reaches.append (h : o.Reaches front o') (h' : o'.Reaches back o'') :
    o.Reaches (front ++ back) o'' := by
  intro s hs
  obtain ⟨hfront, hmiddle⟩ := h s hs
  obtain ⟨hback, hend⟩ := h' (s.run front) hmiddle
  rw [TableState.run_append]
  exact ⟨hfront.append hback, hend⟩

/-- A single change passes where it is accepted. -/
theorem reaches_single
    (h : ∀ s : TableState, s.Matches o → s.Accepts change ∧ (s.apply change).Matches o') :
    o.Reaches [change] o' := by
  intro s hs
  obtain ⟨haccepts, hmatches⟩ := h s hs
  exact ⟨TableState.replays_singleton haccepts, hmatches⟩

/-- So does one that is accepted where another passes, and does the same. -/
theorem Reaches.of_same {change' : TableChange} (h : o.Reaches [change] o')
    (haccepts : ∀ s : TableState, s.Accepts change → s.Accepts change')
    (happly : ∀ s : TableState, s.apply change' = s.apply change) : o.Reaches [change'] o' := by
  refine reaches_single fun s hs => ?_
  obtain ⟨hreplays, hmatches⟩ := h s hs
  refine ⟨haccepts s (hreplays [] change [] rfl), ?_⟩
  rw [happly]
  exact hmatches

/-- Changes each of which leaves the outline as it is. -/
theorem reaches_same (h : ∀ change ∈ changes, o.Reaches [change] o) : o.Reaches changes o := by
  induction changes with
  | nil => exact reaches_nil
  | cons change rest ih =>
      obtain ⟨hchange, hrest⟩ := List.forall_mem_cons.mp h
      exact hchange.append (ih hrest)

section Several

variable {α β : Type} {items : List α} (name : α → Text) (holding : List α → Outline)

/-- Things of distinct names that are dropped one after the other. -/
theorem reaches_drops {drop : Text → TableChange}
    (hstep : ∀ items : List α, ∀ n ∈ items.map name,
      (holding items).Reaches [drop n] (holding (items.filter (name · != n))))
    {names : List Text} (hnodup : names.Nodup) (hnames : names ⊆ items.map name) :
    (holding items).Reaches (names.map drop) (holding (items.filter (name · ∉ names))) := by
  induction names generalizing items with
  | nil => simpa using reaches_nil
  | cons n names ih =>
      obtain ⟨hn, hnodup⟩ := List.nodup_cons.mp hnodup
      obtain ⟨hfirst, hrest⟩ := List.cons_subset.mp hnames
      have hleft : names ⊆ (items.filter (name · != n)).map name := by
        intro m hm
        obtain ⟨item, hitem, rfl⟩ := List.mem_map.mp (hrest hm)
        have hne : name item ≠ n := by
          rintro rfl
          exact hn hm
        exact List.mem_map_of_mem (List.mem_filter.mpr ⟨hitem, by simpa using hne⟩)
      rw [← filter_notMem_cons name]
      exact (hstep items n hfirst).append (ih hnodup hleft)

/-- Things of distinct new names that are added one after the other. -/
theorem reaches_adds {item : β → α} {add : β → TableChange} {added : List β}
    (hstep : ∀ b ∈ added, ∀ items : List α, name (item b) ∉ items.map name →
      (holding items).Reaches [add b] (holding (items ++ [item b])))
    (hnodup : ((items ++ added.map item).map name).Nodup) :
    (holding items).Reaches (added.map add) (holding (items ++ added.map item)) := by
  induction added generalizing items with
  | nil => simpa using reaches_nil
  | cons b added ih =>
      obtain ⟨hfirst, hrest⟩ := List.forall_mem_cons.mp hstep
      have hwhole : items ++ (b :: added).map item = items ++ [item b] ++ added.map item := by
        simp
      rw [hwhole] at hnodup ⊢
      have hnew : name (item b) ∉ items.map name := by
        rw [List.append_assoc, nodup_map_append] at hnodup
        intro hmem
        obtain ⟨other, hother, hsame⟩ := List.mem_map.mp hmem
        exact hnodup.2.2 other hother (item b) (by simp) hsame
      exact (hfirst items hnew).append (ih hrest hnodup)

/-- The same if they are added as they are. -/
theorem reaches_adds_self {add : α → TableChange} {added : List α}
    (hstep : ∀ a ∈ added, ∀ items : List α, name a ∉ items.map name →
      (holding items).Reaches [add a] (holding (items ++ [a])))
    (hnodup : ((items ++ added).map name).Nodup) :
    (holding items).Reaches (added.map add) (holding (items ++ added)) := by
  have hitself : items ++ added = items ++ added.map id := by rw [List.map_id]
  rw [hitself] at hnodup ⊢
  exact reaches_adds name holding hstep hnodup

end Several

/-! ## Single changes -/

theorem reaches_dropForeignKey {name : Text} (h : name ∈ o.foreignKeys.map (·.name)) :
    o.Reaches [.dropForeignKey name]
      (o.withForeignKeys (o.foreignKeys.filter (·.name != name))) := by
  refine reaches_single fun s hs => ⟨?_, { hs with foreignKeys := ?_ }⟩
  · rwa [TableState.Accepts, TableState.foreignKeyNames, hs.foreignKeys]
  · rw [TableState.apply, hs.foreignKeys, withForeignKeys]

theorem reaches_dropCheck {name : Text} (h : name ∈ o.checks.map (·.name)) :
    o.Reaches [.dropCheck name] (o.withChecks (o.checks.filter (·.name != name))) := by
  refine reaches_single fun s hs => ⟨?_, { hs with checks := ?_ }⟩
  · rwa [TableState.Accepts, TableState.checkNames, hs.checks]
  · rw [TableState.apply, hs.checks, withChecks]

theorem reaches_dropIndex {name : Text} (h : name ∈ o.indexes.map (·.name)) :
    o.Reaches [.dropIndex name] (o.withIndexes (o.indexes.filter (·.name != name))) := by
  refine reaches_single fun s hs => ⟨?_, { hs with indexes := ?_ }⟩
  · rwa [TableState.Accepts, TableState.indexNames, hs.indexes]
  · rw [TableState.apply, hs.indexes, withIndexes]

theorem reaches_dropGuard {name : Text} (h : name ∈ o.indexes.map (·.name)) :
    o.Reaches [.dropGuard name] (o.withIndexes (o.indexes.filter (·.name != name))) :=
  (reaches_dropIndex h).of_same (fun _ haccepts => haccepts) fun _ => rfl

theorem reaches_dropPrimaryKey (h : o.primaryKey ≠ none) :
    o.Reaches [.dropPrimaryKey] (o.withPrimaryKey none) := by
  refine reaches_single fun s hs => ⟨?_, { hs with primaryKey := rfl }⟩
  rwa [TableState.Accepts, hs.primaryKey]

theorem reaches_addIndex {index : Index} (hname : index.name ∉ o.indexes.map (·.name))
    (hcolumns : namedColumns index.parts ⊆ o.columns) :
    o.Reaches [.addIndex index] (o.withIndexes (o.indexes ++ [index])) := by
  refine reaches_single fun s hs => ⟨⟨?_, hs.hasColumns hcolumns⟩, { hs with indexes := ?_ }⟩
  · rwa [TableState.indexNames, hs.indexes]
  · rw [TableState.apply, hs.indexes, withIndexes]

/-- Adding a guard is adding its index. -/
theorem reaches_addGuard {name : Option Text} {columns : List Text}
    (hname : (guardIndex name columns).name ∉ o.indexes.map (·.name))
    (hcolumns : namedColumns (guardIndex name columns).parts ⊆ o.columns) :
    o.Reaches [.addGuard name columns]
      (o.withIndexes (o.indexes ++ [guardIndex name columns])) :=
  (reaches_addIndex hname hcolumns).of_same (fun _ haccepts => haccepts) fun _ => rfl

theorem reaches_addPrimaryKey {key : PrimaryKey} (hnone : o.primaryKey = none)
    (hcolumns : namedColumns key.parts ⊆ o.columns) :
    o.Reaches [.addPrimaryKey key] (o.withPrimaryKey (some key)) := by
  refine reaches_single fun s hs => ⟨⟨?_, hs.hasColumns hcolumns⟩, { hs with primaryKey := rfl }⟩
  rw [hs.primaryKey, hnone]

theorem reaches_addForeignKey {key : ForeignKey} (hname : key.name ∉ o.foreignKeys.map (·.name))
    (hcolumns : namedColumns key.parts ⊆ o.columns) :
    o.Reaches [.addForeignKey key] (o.withForeignKeys (o.foreignKeys ++ [key])) := by
  refine reaches_single fun s hs =>
    ⟨⟨?_, hs.hasColumns hcolumns⟩, { hs with foreignKeys := ?_ }⟩
  · rwa [TableState.foreignKeyNames, hs.foreignKeys]
  · rw [TableState.apply, hs.foreignKeys, withForeignKeys]

theorem reaches_addCheck {check : CheckConstraint} (hname : check.name ∉ o.checks.map (·.name)) :
    o.Reaches [.addCheck check] (o.withChecks (o.checks ++ [check])) := by
  refine reaches_single fun s hs => ⟨?_, { hs with checks := ?_ }⟩
  · rwa [TableState.Accepts, TableState.checkNames, hs.checks]
  · rw [TableState.apply, hs.checks, withChecks]

/-- Another definition of a column leaves the outline as it is. -/
theorem reaches_changeColumn {name definition : Text} (h : name ∈ o.columns) :
    o.Reaches [.changeColumn name definition] o := by
  refine reaches_single fun s hs => ⟨(hs.columns name).mpr h, { hs with columns := ?_ }⟩
  intro x
  rw [TableState.apply_changeColumn_columnNames]
  exact hs.columns x

/-- A new column brings its key along. -/
theorem reaches_addColumn {name definition : Text} {key : InlineKey} {place : Placement}
    (hname : name ∉ o.columns) (hplace : ∀ previous, place = .after previous → previous ∈ o.columns)
    (hindex : ∀ index ∈ key.index? name, index.name ∉ o.indexes.map (·.name) ∧
      namedColumns index.parts ⊆ o.columns ++ [name])
    (hprimary : ∀ primaryKey ∈ key.primaryKey? name, o.primaryKey = none ∧
      namedColumns primaryKey.parts ⊆ o.columns ++ [name]) :
    o.Reaches [.addColumn name definition key place] (o.withColumn name key) := by
  refine reaches_single fun s hs => ?_
  have hwider : ∀ x, x ∈ ({ s with columns := place.insert (name, definition) s.columns } :
      TableState).columnNames ↔ x ∈ o.columns ++ [name] := by
    intro x
    rw [List.mem_append, List.mem_singleton, ← hs.columns x, or_comm]
    exact mem_map_insert
  refine ⟨⟨?_, ?_, ?_, ?_⟩, ?_⟩
  · exact fun hin => hname ((hs.columns name).mp hin)
  · cases place with
    | after previous => exact (hs.columns previous).mpr (hplace previous rfl)
    | first | last => trivial
  · intro index hbrings
    obtain ⟨hfree, hcolumns⟩ := hindex index hbrings
    refine ⟨?_, fun x hx => (hwider x).mpr (hcolumns hx)⟩
    rwa [← hs.indexes] at hfree
  · intro primaryKey hbrings
    obtain ⟨hnone, hcolumns⟩ := hprimary primaryKey hbrings
    refine ⟨?_, fun x hx => (hwider x).mpr (hcolumns hx)⟩
    rwa [← hs.primaryKey] at hnone
  · exact { hs with
      columns := hwider
      indexes := by rw [TableState.apply, hs.indexes, withColumn]
      primaryKey := by rw [TableState.apply, hs.primaryKey, withColumn] }

/-! ## Dropped columns -/

/-- A column that an index does not name leaves it as it is. -/
theorem withoutColumn?_of_notMem {index : Index} {d : Text} (h : d ∉ namedColumns index.parts) :
    index.withoutColumn? d = some index := by
  rw [Index.withoutColumn?, partsWithout_of_notMem h]
  exact if_neg fun hnone => hnone.2 hnone.1

/-- An index over just one column goes away with it. -/
theorem withoutColumn?_of_single {index : Index} {d : Text} (hparts : index.parts = [d])
    (hname : columnName? d = some d) : index.withoutColumn? d = none := by
  simp [Index.withoutColumn?, hparts, partsWithout, hname]

/-- The indexes that are left, each with its remaining parts, when columns are dropped. -/
def withoutColumns (names : List Text) (indexes : List Index) : List Index :=
  names.foldl (fun indexes name => indexes.filterMap (·.withoutColumn? name)) indexes

theorem reaches_dropColumn {name : Text} (h : name ∈ o.columns) :
    o.Reaches [.dropColumn name]
      { o with
        columns := o.columns.filter (· != name)
        indexes := o.indexes.filterMap (·.withoutColumn? name)
        primaryKey := o.primaryKey.bind (·.withoutColumn? name) } := by
  refine reaches_single fun s hs => ⟨(hs.columns name).mpr h, ?_⟩
  exact { hs with
    columns := by
      intro x
      rw [List.mem_filter, ← hs.columns x]
      simp [TableState.apply, TableState.columnNames]
    indexes := by rw [TableState.apply, hs.indexes]
    primaryKey := by rw [TableState.apply, hs.primaryKey] }

/-- Columns are dropped one after the other. -/
theorem reaches_withoutColumns {names : List Text} (hnodup : names.Nodup)
    (hnames : names ⊆ o.columns) :
    ∃ primaryKey, o.Reaches (names.map .dropColumn)
      { o with
        columns := o.columns.filter (· ∉ names)
        indexes := withoutColumns names o.indexes
        primaryKey } := by
  induction names generalizing o with
  | nil => exact ⟨o.primaryKey, by simpa [withoutColumns] using reaches_nil⟩
  | cons name names ih =>
      obtain ⟨hname, hnodup⟩ := List.nodup_cons.mp hnodup
      obtain ⟨hfirst, hrest⟩ := List.cons_subset.mp hnames
      have hleft : names ⊆ o.columns.filter (· != name) := by
        intro d hd
        refine List.mem_filter.mpr ⟨hrest hd, ?_⟩
        rw [bne_iff_ne]
        rintro rfl
        exact hname hd
      have hcolumns : (o.columns.filter (· != name)).filter (· ∉ names)
          = o.columns.filter (· ∉ name :: names) :=
        filter_notMem_cons id
      obtain ⟨primaryKey, hlater⟩ := ih (o := { o with
        columns := o.columns.filter (· != name)
        indexes := o.indexes.filterMap (·.withoutColumn? name)
        primaryKey := o.primaryKey.bind (·.withoutColumn? name) }) hnodup hleft
      refine ⟨primaryKey, ?_⟩
      rw [← hcolumns]
      exact (reaches_dropColumn hfirst).append hlater

/-- An index over none of some columns stays when they are dropped, and one over just one of them
goes away. -/
def StaysOrGoes (names : List Text) (index : Index) : Prop :=
  (∀ d ∈ names, d ∉ namedColumns index.parts) ∨
    ∃ d ∈ names, index.parts = [d] ∧ columnName? d = some d

/-- Such an index is not over the first of distinct columns, or over that column alone. -/
theorem StaysOrGoes.head {name : Text} {names : List Text} {index : Index}
    (h : StaysOrGoes (name :: names) index) (hname : name ∉ names) :
    name ∉ namedColumns index.parts ∨ index.parts = [name] ∧ columnName? name = some name := by
  rcases h with hstays | ⟨d, hd, hparts, hitself⟩
  · exact Or.inl (hstays name (by simp))
  · rcases List.mem_cons.mp hd with rfl | hd
    · exact Or.inr ⟨hparts, hitself⟩
    · refine Or.inl ?_
      intro hin
      obtain rfl : name = d := by simpa [hparts, namedColumns, hitself] using hin
      exact hname hd

/-- If it is not over the first of the columns, the others tell its fate. -/
theorem StaysOrGoes.tail {name : Text} {names : List Text} {index : Index}
    (h : StaysOrGoes (name :: names) index) (hother : name ∉ namedColumns index.parts) :
    StaysOrGoes names index := by
  rcases h with hstays | ⟨d, hd, hparts, hitself⟩
  · exact Or.inl fun d hd => hstays d (List.mem_cons_of_mem _ hd)
  · rcases List.mem_cons.mp hd with rfl | hd
    · simp [hparts, namedColumns, hitself] at hother
    · exact Or.inr ⟨d, hd, hparts, hitself⟩

/-- If all indexes are of these two kinds, those that stay are as they were. -/
theorem withoutColumns_eq_filter {names : List Text} (hnodup : names.Nodup) {indexes : List Index}
    (hindexes : ∀ index ∈ indexes, StaysOrGoes names index) :
    withoutColumns names indexes
      = indexes.filter fun index => ∀ d ∈ names, d ∉ namedColumns index.parts := by
  induction names generalizing indexes with
  | nil => simp [withoutColumns]
  | cons name names ih =>
      obtain ⟨hname, hnodup⟩ := List.nodup_cons.mp hnodup
      have hfirst : indexes.filterMap (·.withoutColumn? name)
          = indexes.filter fun index => name ∉ namedColumns index.parts := by
        rw [← List.filterMap_eq_filter]
        refine List.filterMap_congr ?_
        intro index hindex
        rcases (hindexes index hindex).head hname with hother | ⟨hparts, hitself⟩
        · rw [withoutColumn?_of_notMem hother]
          simp [hother]
        · have hin : name ∈ namedColumns index.parts := by simp [hparts, namedColumns, hitself]
          rw [withoutColumn?_of_single hparts hitself]
          simp [Option.guard, hin]
      rw [withoutColumns, List.foldl_cons, ← withoutColumns, hfirst, ih hnodup]
      · rw [List.filter_filter]
        refine List.filter_congr ?_
        intro index _
        rw [Bool.eq_iff_iff]
        simp [and_comm]
      · intro index hindex
        obtain ⟨hindex, hother⟩ := List.mem_filter.mp hindex
        exact (hindexes index hindex).tail (of_decide_eq_true hother)

/-- So they are when the columns are dropped. -/
theorem reaches_dropColumns {names : List Text} (hnodup : names.Nodup) (hnames : names ⊆ o.columns)
    (hindexes : ∀ index ∈ o.indexes, StaysOrGoes names index) :
    ∃ primaryKey, o.Reaches (names.map .dropColumn)
      { o with
        columns := o.columns.filter (· ∉ names)
        indexes := o.indexes.filter fun index => ∀ d ∈ names, d ∉ namedColumns index.parts
        primaryKey } := by
  rw [← withoutColumns_eq_filter hnodup hindexes]
  exact reaches_withoutColumns hnodup hnames

end Outline

end SchemaMigration
