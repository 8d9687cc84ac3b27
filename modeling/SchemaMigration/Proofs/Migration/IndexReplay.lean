import SchemaMigration.Proofs.Migration.KeyRoute

/-!
# The names of indexes during a migration

Whether the server refuses to add or to drop an index depends on the names of the indexes that are
there, and these are told by the indexes at first and the changes in front. Between two tables
nothing is added under a used name and nothing dropped that is absent just if the names of guards
are free.

## Main Definitions

* `TableState.AcceptsIndexes` - what is added has a free name, and what is dropped is there
* `TableState.ReplaysIndexes` - so it is at every change of a list
* `replaysIndexes_adds_iff`, `replaysIndexes_drops` - changes that add indexes, and that drop some
* `IsGuardable.replaysIndexes_iff` - a migration passes just if the names of guards are free
* `IsRoutable.run_indexes_perm` - and then the indexes at its end are those of the new table

## Design Notes

Only names are looked at, not whether columns that an index names are there. So nothing is asked of
the auto-increment columns and the foreign keys of the old table, which may be one that another
migration has left behind.
-/

namespace SchemaMigration

/-- The name of the index that a change drops. -/
def TableChange.droppedIndex? : TableChange → Option Text
  | dropIndex name | dropGuard name => some name
  | _ => none

/-- A change that drops an index brings none. -/
theorem TableChange.index?_of_droppedIndex? {change : TableChange} {name : Text}
    (h : change.droppedIndex? = some name) : change.index? = none := by
  cases change <;> first | rfl | cases h

/-- The phases in which indexes are dropped, or lose their columns. -/
def Phase.losesIndexes : List Phase := [.dropIndex, .dropColumn, .dropGuardIndex]

/-- In other phases no index is dropped. -/
theorem TableChange.droppedIndex?_of_phase {change : TableChange}
    (h : change.phase ∉ Phase.losesIndexes) : change.droppedIndex? = none := by
  cases change with
  | dropIndex | dropGuard => exact absurd h (by simp [phase, Phase.losesIndexes])
  | _ => rfl

namespace TableState

variable {s : TableState} {change : TableChange} {front back changes rest : List TableChange}

/-- An index that a change adds has a free name, and one that it drops is there. -/
def AcceptsIndexes (s : TableState) (change : TableChange) : Prop :=
  (∀ index ∈ change.index?, index.name ∉ s.indexNames) ∧
    ∀ name ∈ change.droppedIndex?, name ∈ s.indexNames

/-- So it is at every change of a list, in the state behind those in front of it. -/
def ReplaysIndexes (s : TableState) (changes : List TableChange) : Prop :=
  ∀ front change back, changes = front ++ change :: back → (s.run front).AcceptsIndexes change

theorem replaysIndexes_nil : s.ReplaysIndexes [] := by
  intro front change back h
  simp at h

theorem replaysIndexes_append : s.ReplaysIndexes (front ++ back) ↔
    s.ReplaysIndexes front ∧ (s.run front).ReplaysIndexes back := by
  rw [ReplaysIndexes, forall_split_append]
  simp only [run_append]
  rfl

theorem replaysIndexes_singleton : s.ReplaysIndexes [change] ↔ s.AcceptsIndexes change := by
  constructor
  · exact fun h => h [] change [] rfl
  · rintro h front other back hsplit
    cases front with
    | nil =>
        obtain ⟨rfl, -⟩ := List.cons.inj hsplit
        exact h
    | cons first front => simp at hsplit

theorem replaysIndexes_cons : s.ReplaysIndexes (change :: rest) ↔
    s.AcceptsIndexes change ∧ (s.apply change).ReplaysIndexes rest := by
  rw [← List.singleton_append, replaysIndexes_append, replaysIndexes_singleton]
  rfl

/-! ## Added indexes -/

/-- A change adds the index that it brings to those that are there. -/
theorem apply_indexes_of_phase (h : change.phase ∉ Phase.losesIndexes) :
    (s.apply change).indexes = s.indexes ++ change.index?.toList := by
  cases change with
  | dropIndex | dropColumn | dropGuard =>
      exact absurd h (by simp [TableChange.phase, Phase.losesIndexes])
  | addGuard | addIndex | addColumn => rfl
  | _ => simp [apply, TableChange.index?]

/-- Changes add the indexes that they bring. -/
theorem run_indexes_of_phase (h : ∀ change ∈ changes, change.phase ∉ Phase.losesIndexes) :
    (s.run changes).indexes = s.indexes ++ changes.filterMap (·.index?) := by
  induction changes generalizing s with
  | nil => simp
  | cons change rest ih =>
      obtain ⟨hchange, hrest⟩ := List.forall_mem_cons.mp h
      rw [run_cons, ih hrest, apply_indexes_of_phase hchange, List.append_assoc]
      cases hbrings : change.index? <;> simp [hbrings]

/-- A change that adds an index passes just if names stay distinct. -/
theorem acceptsIndexes_iff_of_phase (h : change.phase ∉ Phase.losesIndexes)
    (hnodup : s.indexNames.Nodup) :
    s.AcceptsIndexes change ↔ (s.apply change).indexNames.Nodup := by
  rw [AcceptsIndexes, TableChange.droppedIndex?_of_phase h, indexNames, indexNames,
    apply_indexes_of_phase h]
  cases change.index? with
  | none => simpa [indexNames] using hnodup
  | some index =>
      simp only [Option.mem_def, Option.some.injEq, forall_eq', reduceCtorEq, false_implies,
        implies_true, and_true, Option.toList_some]
      constructor
      · exact nodup_concat hnodup
      · intro hwhole hin
        obtain ⟨other, hother, hname⟩ := List.mem_map.mp hin
        exact (nodup_map_append.mp hwhole).2.2 other hother index (by simp) hname

/-- Changes that add indexes pass just if names stay distinct. -/
theorem replaysIndexes_adds_iff (h : ∀ change ∈ changes, change.phase ∉ Phase.losesIndexes)
    (hnodup : s.indexNames.Nodup) : s.ReplaysIndexes changes ↔
      ((s.indexes ++ changes.filterMap (·.index?)).map (·.name)).Nodup := by
  rw [← run_indexes_of_phase h, ← indexNames]
  induction changes generalizing s with
  | nil => exact iff_of_true replaysIndexes_nil hnodup
  | cons change rest ih =>
      obtain ⟨hchange, hrest⟩ := List.forall_mem_cons.mp h
      rw [replaysIndexes_cons, acceptsIndexes_iff_of_phase hchange hnodup, run_cons]
      constructor
      · rintro ⟨hfirst, hlater⟩
        exact (ih hrest hfirst).mp hlater
      · intro hwhole
        have hfirst : (s.apply change).indexNames.Nodup := by
          rw [indexNames, run_indexes_of_phase hrest] at hwhole
          exact (nodup_map_append.mp hwhole).1
        exact ⟨hfirst, (ih hrest hfirst).mpr hwhole⟩

/-! ## Dropped indexes -/

/-- Changes that neither add nor drop indexes pass. -/
theorem replaysIndexes_of_forall
    (h : ∀ change ∈ changes, change.index? = none ∧ change.droppedIndex? = none) :
    s.ReplaysIndexes changes := by
  rintro front change back rfl
  obtain ⟨hadds, hdrops⟩ := h change (by simp)
  simp [AcceptsIndexes, hadds, hdrops]

/-- A dropped index leaves the others. -/
theorem apply_indexes_of_droppedIndex? {name : Text} (h : change.droppedIndex? = some name) :
    (s.apply change).indexes = s.indexes.filter (·.name != name) := by
  cases change with
  | dropIndex | dropGuard =>
      obtain rfl := Option.some.inj h
      rfl
  | _ => cases h

section Drops

variable {drop : Text → TableChange} (hdrop : ∀ name, (drop name).droppedIndex? = some name)

include hdrop

/-- Dropped indexes leave the others. -/
theorem run_indexes_drops (names : List Text) :
    (s.run (names.map drop)).indexes = s.indexes.filter (·.name ∉ names) := by
  induction names generalizing s with
  | nil => simp
  | cons name names ih =>
      rw [List.map_cons, run_cons, ih, apply_indexes_of_droppedIndex? (hdrop name),
        filter_notMem_cons]

/-- Indexes of distinct names that are there may be dropped one after the other. -/
theorem replaysIndexes_drops {names : List Text} (hnodup : names.Nodup)
    (hnames : names ⊆ s.indexNames) : s.ReplaysIndexes (names.map drop) := by
  induction names generalizing s with
  | nil => exact replaysIndexes_nil
  | cons name names ih =>
      obtain ⟨hname, hnodup⟩ := List.nodup_cons.mp hnodup
      obtain ⟨hfirst, hrest⟩ := List.cons_subset.mp hnames
      rw [List.map_cons, replaysIndexes_cons]
      refine ⟨?_, ih hnodup ?_⟩
      · simp [AcceptsIndexes, hdrop, TableChange.index?_of_droppedIndex? (hdrop name), hfirst]
      · intro other hother
        obtain ⟨index, hindex, rfl⟩ := List.mem_map.mp (hrest hother)
        rw [indexNames, apply_indexes_of_droppedIndex? (hdrop name)]
        refine List.mem_map_of_mem (List.mem_filter.mpr ⟨hindex, ?_⟩)
        rw [bne_iff_ne]
        rintro rfl
        exact hname hother

end Drops

/-- Dropped columns leave what remains of the indexes. -/
theorem run_indexes_dropColumns (names : List Text) :
    (s.run (names.map .dropColumn)).indexes = Outline.withoutColumns names s.indexes := by
  induction names generalizing s with
  | nil => rfl
  | cons name names ih =>
      rw [List.map_cons, run_cons, ih]
      rfl

end TableState

namespace TableComparison

variable {c : TableComparison} {s : TableState}

/-! ## The stretches of a migration -/

/-- Columns bring the indexes of their keys. -/
theorem filterMap_index?_additionsBehind (placed : List Text) (columns : List Column) :
    ((c.additionsBehind placed columns).map (·.change)).filterMap (·.index?)
      = columns.filterMap fun column => (c.inlineKey column).index? column.name := by
  induction columns generalizing placed with
  | nil => rfl
  | cons column columns ih =>
      rw [additionsBehind, List.map_cons, List.filterMap_cons, List.filterMap_cons, ih]
      rfl

/-- The indexes that the changes of each phase bring. -/
theorem filterMap_index?_changesIn (p : Phase) : (c.changesIn p).filterMap (·.index?) =
    match p with
    | .guardIndex => c.guardIndexes
    | .addColumn => c.inlineIndexes
    | .addIndex => c.furtherIndexes
    | _ => [] := by
  cases p with
  | guardIndex =>
      rw [changesIn_guardIndex, List.filterMap_map, guardIndexes, ← List.filterMap_eq_map]
      rfl
  | addColumn =>
      rw [changesIn_addColumn]
      exact filterMap_index?_additionsBehind _ _
  | addIndex =>
      rw [changesIn_addIndex, List.filterMap_map]
      exact List.filterMap_some
  | _ =>
      rw [List.filterMap_eq_nil_iff]
      intro change hchange
      have hphase := c.phase_of_mem_changesIn hchange
      cases change <;> first | rfl | cases hphase

/-- The phases up to the one in which guards are added. -/
def guardingPhases : List Phase :=
  [.dropForeignKey, .dropRoutine, .dropView, .dropTable, .removePartitioning, .changeOptions,
    .createTable, .guardIndex]

/-- The phases in which columns and keys of the new table are added. -/
def extendingPhases : List Phase :=
  [.dropPrimaryKey, .changeColumn, .addColumn, .addPrimaryKey, .addIndex]

/-- The phases in which columns are dropped and foreign keys added. -/
def leavingPhases : List Phase := [.dropColumn, .addForeignKey, .createView, .createRoutine]

/-- The migration is these stretches, with the phases in which indexes are dropped between them. -/
theorem changes_eq_phases (c : TableComparison) : c.changes =
    guardingPhases.flatMap c.changesIn ++ (c.changesIn .dropIndex ++
      (extendingPhases.flatMap c.changesIn ++ (leavingPhases.flatMap c.changesIn ++
        (c.changesIn .dropGuardIndex ++ [Phase.partitionTable].flatMap c.changesIn)))) := by
  have hphases : c.changes = Phase.all.flatMap c.changesIn := rfl
  rw [hphases]
  simp [Phase.all, guardingPhases, extendingPhases, leavingPhases]

/-- The changes of a stretch are made in its phases. -/
theorem phase_notMem_of_mem_flatMap {phases : List Phase}
    (h : ∀ p ∈ phases, p ∉ Phase.losesIndexes) :
    ∀ change ∈ phases.flatMap c.changesIn, change.phase ∉ Phase.losesIndexes := by
  intro change hchange
  obtain ⟨p, hp, hchange⟩ := List.mem_flatMap.mp hchange
  rw [c.phase_of_mem_changesIn hchange]
  exact h p hp

/-- The phases of a stretch add the indexes that they bring. -/
theorem run_indexes_phases {phases : List Phase} (h : ∀ p ∈ phases, p ∉ Phase.losesIndexes) :
    (s.run (phases.flatMap c.changesIn)).indexes
      = s.indexes ++ phases.flatMap fun p => (c.changesIn p).filterMap (·.index?) := by
  rw [TableState.run_indexes_of_phase (phase_notMem_of_mem_flatMap h), List.filterMap_flatMap]

/-- They pass just if names stay distinct. -/
theorem replaysIndexes_phases_iff {phases : List Phase} (h : ∀ p ∈ phases, p ∉ Phase.losesIndexes)
    (hnodup : s.indexNames.Nodup) : s.ReplaysIndexes (phases.flatMap c.changesIn) ↔
      ((s.indexes ++ phases.flatMap fun p => (c.changesIn p).filterMap (·.index?)).map
        (·.name)).Nodup := by
  rw [← List.filterMap_flatMap]
  exact TableState.replaysIndexes_adds_iff (phase_notMem_of_mem_flatMap h) hnodup

/-- The first stretch brings the guards. -/
theorem flatMap_index?_guardingPhases :
    (guardingPhases.flatMap fun p => (c.changesIn p).filterMap (·.index?)) = c.guardIndexes := by
  simp [guardingPhases, filterMap_index?_changesIn]

/-- The second brings the indexes that arrive with columns, and those by themselves. -/
theorem flatMap_index?_extendingPhases :
    (extendingPhases.flatMap fun p => (c.changesIn p).filterMap (·.index?))
      = c.inlineIndexes ++ c.furtherIndexes := by
  simp [extendingPhases, filterMap_index?_changesIn]

/-- In other phases than these, indexes are neither added nor dropped by name. -/
theorem replaysIndexes_quiet {phases : List Phase} (h : ∀ p ∈ phases,
    p ∉ [Phase.guardIndex, .dropIndex, .addColumn, .addIndex, .dropGuardIndex]) :
    s.ReplaysIndexes (phases.flatMap c.changesIn) := by
  refine TableState.replaysIndexes_of_forall ?_
  intro change hchange
  obtain ⟨p, hp, hchange⟩ := List.mem_flatMap.mp hchange
  have hphase := h p hp
  rw [← c.phase_of_mem_changesIn hchange] at hphase
  cases change <;> first | exact ⟨rfl, rfl⟩ | simp [TableChange.phase] at hphase

/-! ## What passes in each stretch -/

/-- Guards pass just if the names of old indexes and guards are distinct. -/
theorem replaysIndexes_guarding_iff (hold : c.old.WellFormed) (hs : s.indexes = c.old.indexes) :
    s.ReplaysIndexes (guardingPhases.flatMap c.changesIn) ↔
      ((c.old.indexes ++ c.guardIndexes).map (·.name)).Nodup := by
  rw [replaysIndexes_phases_iff (by decide), hs, flatMap_index?_guardingPhases]
  rw [TableState.indexNames, hs]
  exact hold.indexNames_nodup

theorem changesIn_dropIndex_eq_map : c.changesIn .dropIndex
    = ((c.old.indexes.filter (! c.keepsIndex ·)).map (·.name)).map .dropIndex := by
  rw [changesIn_dropIndex, List.map_map]
  rfl

/-- Then old indexes may be dropped. -/
theorem replaysIndexes_dropIndex (hold : c.old.WellFormed)
    (hs : s.indexes = c.old.indexes ++ c.guardIndexes) :
    s.ReplaysIndexes (c.changesIn .dropIndex) := by
  rw [changesIn_dropIndex_eq_map]
  refine TableState.replaysIndexes_drops (fun _ => rfl) (nodup_filter _ hold.indexNames_nodup) ?_
  rw [TableState.indexNames, hs, List.map_append]
  exact List.subset_append_of_subset_left _ (List.filter_sublist.map _).subset

/-- Those that stay are left, and the guards. -/
theorem run_indexes_dropIndex (hnames : ((c.old.indexes ++ c.guardIndexes).map (·.name)).Nodup)
    (hs : s.indexes = c.old.indexes ++ c.guardIndexes) :
    (s.run (c.changesIn .dropIndex)).indexes = c.keptIndexes ++ c.guardIndexes := by
  rw [changesIn_dropIndex_eq_map, TableState.run_indexes_drops (fun _ => rfl), hs,
    filter_dropped hnames]

/-- Keys of the new table pass just if the names of all indexes on the routes are distinct. -/
theorem replaysIndexes_extending_iff
    (hnames : ((c.old.indexes ++ c.guardIndexes).map (·.name)).Nodup)
    (hs : s.indexes = c.keptIndexes ++ c.guardIndexes) :
    s.ReplaysIndexes (extendingPhases.flatMap c.changesIn) ↔ (c.routes.map (·.name)).Nodup := by
  rw [replaysIndexes_phases_iff (by decide), hs, flatMap_index?_extendingPhases, routes,
    ← List.append_assoc]
  rw [TableState.indexNames, hs]
  exact guardedNames_nodup hnames

/-- Then the indexes of all routes are there. -/
theorem run_indexes_extending (hs : s.indexes = c.keptIndexes ++ c.guardIndexes) :
    (s.run (extendingPhases.flatMap c.changesIn)).indexes = c.routes := by
  rw [run_indexes_phases (by decide), hs, flatMap_index?_extendingPhases, routes,
    ← List.append_assoc]

/-- Of these, guards over dropped columns are gone once columns are dropped. -/
theorem IsGuardable.run_indexes_leaving (hc : c.IsGuardable) (hs : s.indexes = c.routes) :
    (s.run (leavingPhases.flatMap c.changesIn)).indexes = c.remainingIndexes := by
  have hdropped : c.changesIn .dropColumn = c.droppedNames.map .dropColumn := by
    rw [changesIn_dropColumn, droppedNames, List.map_map]
    rfl
  have hnodup : c.droppedNames.Nodup := nodup_filter _ hc.old_wellFormed.columnNames_nodup
  have hbehind : ([Phase.addForeignKey, .createView, .createRoutine].flatMap fun p =>
      (c.changesIn p).filterMap (·.index?)) = [] := by
    simp [filterMap_index?_changesIn]
  rw [leavingPhases, List.flatMap_cons, TableState.run_append, run_indexes_phases (by decide),
    hbehind, List.append_nil, hdropped, TableState.run_indexes_dropColumns, hs,
    Outline.withoutColumns_eq_filter hnodup fun _ h => hc.staysOrGoes_of_mem_routes h]
  rfl

theorem changesIn_dropGuardIndex_eq_map : c.changesIn .dropGuardIndex
    = c.droppedGuardNames.map .dropGuard := by
  rw [changesIn_dropGuardIndex, droppedGuardNames, List.map_map]
  rfl

/-- The guards that are left may be dropped. -/
theorem IsRoutable.replaysIndexes_dropGuardIndex (hc : c.IsRoutable)
    (hs : s.indexes = c.remainingIndexes) : s.ReplaysIndexes (c.changesIn .dropGuardIndex) := by
  rw [changesIn_dropGuardIndex_eq_map]
  refine TableState.replaysIndexes_drops (fun _ => rfl) hc.droppedGuardNames_nodup ?_
  rw [TableState.indexNames, hs]
  exact hc.droppedGuardNames_subset

/-! ## The whole migration -/

/-- Behind the first stretch the guards are there. -/
theorem run_indexes_guarding :
    ((TableState.ofTable c.old).run (guardingPhases.flatMap c.changesIn)).indexes
      = c.old.indexes ++ c.guardIndexes := by
  rw [run_indexes_phases (by decide), flatMap_index?_guardingPhases]
  rfl

/-- A migration passes, as far as names of indexes go, just if those of guards are free. -/
theorem IsGuardable.replaysIndexes_iff (hc : c.IsGuardable) :
    (TableState.ofTable c.old).ReplaysIndexes c.changes ↔ c.HasFreshGuards := by
  simp only [changes_eq_phases, TableState.replaysIndexes_append]
  rw [replaysIndexes_guarding_iff hc.old_wellFormed rfl]
  constructor
  · rintro ⟨hnames, -, hextending, -⟩
    have hkept := run_indexes_dropIndex hnames run_indexes_guarding
    exact hasFreshGuards_of_nodup hnames ((replaysIndexes_extending_iff hnames hkept).mp hextending)
  · intro hfresh
    have hroutable : c.IsRoutable := { hc, hfresh with }
    have hnames := hfresh.names_nodup
    have hkept := run_indexes_dropIndex hnames run_indexes_guarding
    have hleft := hc.run_indexes_leaving (run_indexes_extending hkept)
    exact ⟨hnames, replaysIndexes_dropIndex hc.old_wellFormed run_indexes_guarding,
      (replaysIndexes_extending_iff hnames hkept).mpr hroutable.routes_nodup,
      replaysIndexes_quiet (by decide), hroutable.replaysIndexes_dropGuardIndex hleft,
      replaysIndexes_quiet (by decide)⟩

/-- If they are, the indexes at its end are those of the new table. -/
theorem IsRoutable.run_indexes_perm (hc : c.IsRoutable) :
    ((TableState.ofTable c.old).run c.changes).indexes.Perm c.new.indexes := by
  have hkept := run_indexes_dropIndex hc.names_nodup run_indexes_guarding
  have hleft := hc.run_indexes_leaving (run_indexes_extending hkept)
  have hbehind : ([Phase.partitionTable].flatMap fun p => (c.changesIn p).filterMap (·.index?))
      = [] := by
    simp [filterMap_index?_changesIn]
  simp only [changes_eq_phases, TableState.run_append]
  rw [run_indexes_phases (by decide), hbehind, List.append_nil, changesIn_dropGuardIndex_eq_map,
    TableState.run_indexes_drops (fun _ => rfl), hleft]
  exact hc.lastingIndexes_perm

end TableComparison

end SchemaMigration
