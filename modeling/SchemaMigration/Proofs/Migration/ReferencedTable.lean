import SchemaMigration.Proofs.DependencyOrder
import SchemaMigration.Proofs.Migration.Difference
import SchemaMigration.Proofs.Migration.ForeignKeyService

/-!
# Foreign keys refer to tables that are there

A foreign key may only be added when the table that it refers to exists, and a table only be
dropped when no other one refers to it. Tables are created before foreign keys are added, so the
former always holds. Dropped tables keep their foreign keys until they go, so the latter rests on
the order in which they are dropped, and there is a good order just if their references have no
cycle.

## Main Definitions

* `Schema.RefersWithin` - foreign keys refer to tables of their schema
* `SchemaState.IsClosed`, `SchemaState.IsFree` - no foreign key dangles, a table may be dropped
* `SchemaComparison.RefersMissing` - one table that goes away refers to another one
* `dropTable_mem_front` - the former is dropped first, unless the latter leads back to it
* `isClosed_of_run` - when tables are free when they are dropped, and no foreign key ever dangles
-/

namespace SchemaMigration

/-- Every foreign key refers to a table of the schema. -/
def Schema.RefersWithin (schema : Schema) : Prop :=
  ∀ table ∈ schema.tables, ∀ key ∈ table.foreignKeys,
    key.refTable ∈ schema.tables.map (·.name)

instance (schema : Schema) : Decidable schema.RefersWithin :=
  inferInstanceAs (Decidable (∀ table ∈ schema.tables, ∀ key ∈ table.foreignKeys,
    key.refTable ∈ schema.tables.map (·.name)))

namespace SchemaState

/-- Every foreign key refers to a table that is there. -/
def IsClosed (s : SchemaState) : Prop :=
  ∀ t ∈ s.tables, ∀ key ∈ t.foreignKeys, key.refTable ∈ s.tableNames

/-- No other table refers to the table of a name. -/
def IsFree (s : SchemaState) (name : Text) : Prop :=
  ∀ t ∈ s.tables, t.name ≠ name → ∀ key ∈ t.foreignKeys, key.refTable ≠ name

end SchemaState

/-- The tables that a table refers to are those of its foreign keys. -/
theorem Table.mem_referencedTables {table : Table} {name : Text} :
    name ∈ table.referencedTables ↔ ∃ key ∈ table.foreignKeys, key.refTable = name := by
  have hcollect : ∀ (keys : List ForeignKey) (seen : List Text),
      name ∈ keys.foldl (fun seen key =>
        if key.refTable ∈ seen then seen else seen ++ [key.refTable]) seen ↔
        name ∈ seen ∨ ∃ key ∈ keys, key.refTable = name := by
    intro keys
    induction keys with
    | nil => simp
    | cons key keys ih =>
        intro seen
        rw [List.foldl_cons, ih, List.exists_mem_cons_iff, ← or_assoc]
        refine or_congr_left ?_
        split
        · exact ⟨Or.inl, by rintro (h | rfl) <;> assumption⟩
        · simp [eq_comm]
  rw [referencedTables, hcollect]
  simp

namespace SchemaComparison

variable {c : SchemaComparison}

/-- A table that only the first schema has refers to another one. -/
def RefersMissing (c : SchemaComparison) (child parent : Text) : Prop :=
  child ≠ parent ∧ ∃ table ∈ c.missingTables, table.name = child ∧
    ∃ key ∈ table.foreignKeys, key.refTable = parent

/-- The walk over dropped tables leads from a table to those that refer to it. -/
theorem mem_referrers {child parent : Text} :
    child ∈ referrers c.missingTables parent ↔ c.RefersMissing child parent := by
  simp only [referrers, RefersMissing, List.mem_map, List.mem_filter, List.contains_iff_mem,
    bne_iff_ne, Table.mem_referencedTables]
  constructor
  · rintro ⟨table, ⟨⟨hmem, hne⟩, hkey⟩, rfl⟩
    exact ⟨hne, table, hmem, rfl, hkey⟩
  · rintro ⟨hne, table, hmem, rfl, hkey⟩
    exact ⟨table, ⟨⟨hmem, hne⟩, hkey⟩, rfl⟩

/-! ## The order of drops -/

/-- Tables are dropped one after the other, in the order of the walk. -/
theorem filter_phase_steps_dropTable (hdrops : c.options.dropsMissing = true) :
    c.steps.filter (fun step => step.phase = .dropTable)
      = (dropOrder c.missingTables).map .dropTable := by
  have hother : ∀ steps : List Step, (∀ step ∈ steps, ∀ name, step ≠ .dropTable name) →
      steps.filter (fun step => step.phase = .dropTable) = [] := by
    intro steps hsteps
    rw [List.filter_eq_nil_iff]
    intro step hstep hphase
    rw [decide_eq_true_eq] at hphase
    cases step with
    | dropTable name => exact hsteps _ hstep name rfl
    | alterTable name step =>
        rw [Step.phase] at hphase
        cases hchange : step.change <;> simp [hchange, TableChange.phase] at hphase
    | _ => cases hphase
  have hchanges := hother c.tableChanges (by
    rintro step hstep name rfl
    obtain ⟨table, -, hstep⟩ := List.mem_flatMap.mp hstep
    split at hstep <;> simp at hstep)
  have hcreations := hother c.tableCreations (by
    rintro step hstep name rfl
    simp [tableCreations] at hstep)
  have hothers := hother (c.routineChanges ++ c.viewChanges ++ c.routineCreations ++
    c.viewCreations) (by
      intro step hstep name hdrop
      have htable := isOnTable_of_mem hstep
      rw [hdrop] at htable
      cases htable)
  have hall : c.tableDrops.filter (fun step => step.phase = .dropTable)
      = (dropOrder c.missingTables).map .dropTable := by
    rw [tableDrops, if_pos hdrops, List.filter_eq_self]
    simp [Step.phase]
  simp only [List.filter_append, List.append_eq_nil_iff] at hothers
  obtain ⟨⟨⟨hroutines, hviews⟩, hnewRoutines⟩, hnewViews⟩ := hothers
  rw [steps, Phase.filter_phase_arrange]
  simp [foundSteps, hchanges, hall, hroutines, hviews, hcreations, hnewRoutines, hnewViews]

/-- A table that refers to another one is dropped before it, unless references run in a cycle. -/
theorem dropTable_mem_front (hdrops : c.options.dropsMissing = true)
    (hacyclic : ∀ name, ¬ Relation.TransGen c.RefersMissing name name) {front back : List Step}
    {child parent : Text} (hsplit : c.steps = front ++ .dropTable parent :: back)
    (h : c.RefersMissing child parent) : .dropTable child ∈ front := by
  have horder := filter_phase_steps_dropTable hdrops
  rw [hsplit, List.filter_append, List.filter_cons_of_pos (by rfl), eq_comm,
    List.map_eq_append_iff] at horder
  obtain ⟨before, rest, hbefore, hfront, hrest⟩ := horder
  obtain ⟨name, behind, rfl, hname, -⟩ := List.map_eq_cons_iff.mp hrest
  obtain rfl := Step.dropTable.inj hname
  have hnext : ∀ name ∈ c.missingTables.map (·.name),
      referrers c.missingTables name ⊆ c.missingTables.map (·.name) := by
    intro name _
    exact ((List.filter_sublist.trans List.filter_sublist).map _).subset
  rcases mem_front_dependencyOrder hnext (by simp) (List.Subset.refl _) hbefore child
    (mem_referrers.mpr h) with hchild | hleads
  · have hmem : Step.dropTable child ∈ before.map Step.dropTable := List.mem_map_of_mem hchild
    rw [hfront] at hmem
    exact (List.mem_filter.mp hmem).1
  · have hback : Relation.ReflTransGen c.RefersMissing name child := by
      rw [← Relation.reflTransGen_swap]
      exact Relation.ReflTransGen.mono (fun _ _ hnext => mem_referrers.mp hnext) _ _ hleads
    exact absurd (Relation.TransGen.tail' hback h) (hacyclic name)

/-- If every table is free when it is dropped, a table that refers to another one is dropped before
it is. -/
theorem idxOf_dropTable_lt (hold : c.old.WellFormed) (hdrops : c.options.dropsMissing = true)
    (hfree : ∀ front name back, c.steps = front ++ .dropTable name :: back →
      ((SchemaState.ofSchema c.old).run front).IsFree name)
    {child parent : Text} (h : c.RefersMissing child parent) :
    c.steps.idxOf (.dropTable child) < c.steps.idxOf (.dropTable parent) := by
  obtain ⟨hne, table, hmissing, rfl, key, hkey, rfl⟩ := h
  have hchild : .dropTable table.name ∈ c.steps :=
    dropTable_mem.mpr ⟨hdrops, List.mem_map_of_mem hmissing⟩
  by_cases hparent : .dropTable key.refTable ∈ c.steps
  · obtain ⟨front, back, hsplit, hfirst⟩ := List.eq_append_cons_of_mem hparent
    have hfront : .dropTable table.name ∈ front := by
      by_contra hlater
      obtain ⟨hselected, hnone⟩ := List.mem_filter.mp hmissing
      have hmem : table ∈ c.old.tables := (List.mem_filter.mp hselected).1
      have hthere := SchemaState.mem_tables_run_of_mem (s := .ofSchema c.old)
        (List.mem_map_of_mem hmem) hlater
      have hsteps : front ⊆ c.steps := hsplit ▸ List.subset_append_left _ _
      rw [TableState.ofTable_name, alterations_eq_nil_of_subset hold hmem (by simpa using hnone)
        hsteps] at hthere
      exact hfree front _ back hsplit _ hthere hne key hkey rfl
    rw [hsplit, List.idxOf_append_of_mem hfront, List.idxOf_append_of_notMem hfirst,
      List.idxOf_cons_self]
    exact lt_of_lt_of_le (List.idxOf_lt_length_of_mem hfront) (Nat.le_add_right _ _)
  · rw [List.idxOf_eq_length hparent]
    exact List.idxOf_lt_length_of_mem hchild

/-! ## Tables that are there -/

/-- A table of the second schema is not dropped. -/
theorem dropTable_notMem_of_new {name : Text} (hname : name ∈ c.new.tables.map (·.name)) :
    .dropTable name ∉ c.steps := by
  intro hdrop
  obtain ⟨table, htable, rfl⟩ := List.mem_map.mp (dropTable_mem.mp hdrop).2
  have hnone := (List.mem_filter.mp htable).2
  rw [Option.isNone_iff_eq_none] at hnone
  exact find?_eq_none_iff.mp hnone hname

variable {p : Phase} {done rest : List Step}

/-- A table of both schemas is there at every moment, and one of the second schema is once tables
are created. -/
theorem Parting.mem_tableNames_of_new (h : c.Parting p done rest) (hnew : c.new.WellFormed)
    (hoptions : c.options = .default) {name : Text} (hname : name ∈ c.new.tables.map (·.name))
    (hthere : name ∈ c.old.tables.map (·.name) ∨ .createTable < p) :
    name ∈ ((SchemaState.ofSchema c.old).run done).tableNames := by
  have hstays : .dropTable name ∉ done := fun hdrop =>
    dropTable_notMem_of_new hname (h.mem_of_done hdrop)
  by_cases hold : name ∈ c.old.tables.map (·.name)
  · exact SchemaState.mem_tableNames_run (by rwa [SchemaState.ofSchema_tableNames]) hstays
  · obtain ⟨table, htable, rfl⟩ := List.mem_map.mp hname
    have hcreated := mem_createdTables (hoptions ▸ Options.comparesAll_default) hnew htable
      (find?_eq_none_iff.mpr hold)
    refine SchemaState.mem_tableNames_run_created ?_ hstays
    exact h.mem_done (createTable_mem_of_mem hcreated) (hthere.resolve_left hold)

/-- A foreign key of a table of both schemas is one of the second schema, or it is still to be
dropped. -/
theorem Parting.foreignKey_cases_of_both (h : c.Parting p done rest) (hold : c.old.WellFormed)
    (hoptions : c.options = .default) (holdRefs : c.old.RefersWithin)
    (hnewRefs : c.new.RefersWithin) {table new : Table} (htable : table ∈ c.old.tables)
    (hfound : c.new.table? table.name = some new) {key : ForeignKey}
    (hkey : key ∈ ((TableState.ofTable table).run (alterations table.name done)).foreignKeys) :
    (key.refTable ∈ c.new.tables.map (·.name) ∧
      (key.refTable ∈ c.old.tables.map (·.name) ∨ .createTable < p)) ∨
    (key.refTable ∈ c.old.tables.map (·.name) ∧ p ≤ .dropForeignKey) := by
  obtain ⟨hmem, -⟩ := mem_of_find?_eq_some hfound
  have hparting := h.comparison hold hoptions htable
    (tableComparison?_eq_some.mpr ⟨new, hfound, rfl⟩)
  rcases TableState.mem_foreignKeys_run hkey with ⟨hmemKey, hkept⟩ | hadd
  · have holdName := holdRefs table htable key hmemKey
    by_cases hsame : new.foreignKey? key.name = some key
    · obtain ⟨hnewKey, -⟩ := mem_of_find?_eq_some hsame
      exact Or.inl ⟨hnewRefs new hmem key hnewKey, Or.inl holdName⟩
    · refine Or.inr ⟨holdName, le_of_not_gt fun hlate => hkept ?_⟩
      refine hparting.mem_done (TableComparison.dropForeignKey_mem.mpr ?_) hlate
      exact ⟨key, hmemKey, by simpa [TableComparison.keepsForeignKey] using hsame, rfl⟩
  · have hnewKey := TableComparison.addForeignKey_mem.mp (hparting.mem_of_done hadd)
    exact Or.inl ⟨hnewRefs new hmem key hnewKey.1, Or.inr
      (lt_of_lt_of_le (show Phase.createTable < .addForeignKey by decide)
        (hparting.le_of_done _ hadd))⟩

/-- A foreign key of a created table is one of the second schema, and tables have been created. -/
theorem Parting.refTable_of_created (h : c.Parting p done rest) (hnew : c.new.WellFormed)
    (hnewRefs : c.new.RefersWithin) {table : Table} (hcreated : table ∈ c.createdTables)
    {back : List Step} (hback : back ⊆ done) {key : ForeignKey}
    (hkey : key ∈ ((TableState.created table).run (alterations table.name back)).foreignKeys) :
    key.refTable ∈ c.new.tables.map (·.name) ∧ .createTable < p := by
  rcases TableState.mem_foreignKeys_run hkey with ⟨hnone, -⟩ | hadd
  · cases hnone
  · have hsteps : back ⊆ c.steps := fun _ hstep => h.mem_of_done (hback hstep)
    obtain ⟨other, hmemKey, heq⟩ :=
      mem_alterations_created hnew hcreated (alterations_subset hsteps _ hadd)
    obtain rfl := TableChange.addForeignKey.inj heq
    refine ⟨hnewRefs table (new_of_mem_createdTables hcreated).1 key hmemKey, ?_⟩
    obtain ⟨step, hstep, hchange⟩ := mem_alterations.mp hadd
    have hphase := h.le_of_done _ (hback hstep)
    rw [Step.phase, hchange] at hphase
    exact lt_of_lt_of_le (show Phase.createTable < .addForeignKey by decide) hphase

/-- Why a foreign key is there at a moment: the second schema has the table that it refers to, or
foreign keys are about to be dropped, or its own table is. -/
theorem Parting.foreignKey_cases (h : c.Parting p done rest) (hold : c.old.WellFormed)
    (hnew : c.new.WellFormed) (hoptions : c.options = .default)
    (holdRefs : c.old.RefersWithin) (hnewRefs : c.new.RefersWithin) {t : TableState}
    (ht : t ∈ ((SchemaState.ofSchema c.old).run done).tables) {key : ForeignKey}
    (hkey : key ∈ t.foreignKeys) :
    (key.refTable ∈ c.new.tables.map (·.name) ∧
      (key.refTable ∈ c.old.tables.map (·.name) ∨ .createTable < p)) ∨
    (key.refTable ∈ c.old.tables.map (·.name) ∧ p ≤ .dropForeignKey) ∨
    ∃ table ∈ c.missingTables, table.name = t.name ∧ key ∈ table.foreignKeys ∧
      .dropTable t.name ∉ done := by
  rcases SchemaState.mem_tables_run ht with ⟨t₀, ht₀, rfl, hdrop⟩ |
    ⟨front, table, back, rfl, rfl, -⟩
  · obtain ⟨table, htable, rfl⟩ := List.mem_map.mp ht₀
    rw [TableState.run_name]
    rw [TableState.ofTable_name] at hkey hdrop ⊢
    cases hfound : c.new.table? table.name with
    | none =>
        rw [alterations_eq_nil_of_subset hold htable hfound fun _ => h.mem_of_done] at hkey
        refine Or.inr (Or.inr ⟨table, ?_, rfl, hkey, hdrop⟩)
        exact List.mem_filter.mpr ⟨mem_selectedTables hoptions htable, by simp [hfound]⟩
    | some new =>
        rcases h.foreignKey_cases_of_both hold hoptions holdRefs hnewRefs htable hfound hkey with
          hin | hstill
        · exact Or.inl hin
        · exact Or.inr (Or.inl hstill)
  · have hcreated : table ∈ c.createdTables := createTable_mem (h.mem_of_done (by simp))
    obtain ⟨hname, hp⟩ := h.refTable_of_created hnew hnewRefs hcreated (by simp) hkey
    exact Or.inl ⟨hname, Or.inr hp⟩

/-- Without a cycle of references no foreign key dangles. -/
theorem Parting.isClosed (h : c.Parting p done rest) (hold : c.old.WellFormed)
    (hnew : c.new.WellFormed) (hoptions : c.options = .default)
    (holdRefs : c.old.RefersWithin) (hnewRefs : c.new.RefersWithin)
    (hacyclic : ∀ name, ¬ Relation.TransGen c.RefersMissing name name) :
    ((SchemaState.ofSchema c.old).run done).IsClosed := by
  intro t ht key hkey
  rcases h.foreignKey_cases hold hnew hoptions holdRefs hnewRefs ht hkey with
    ⟨hname, hthere⟩ | ⟨hname, hp⟩ | ⟨table, htable, hsame, hmem, hstays⟩
  · exact h.mem_tableNames_of_new hnew hoptions hname hthere
  · refine SchemaState.mem_tableNames_run (by rwa [SchemaState.ofSchema_tableNames]) ?_
    intro hdrop
    exact absurd ((h.le_of_done _ hdrop).trans hp)
      (show ¬ Phase.dropTable ≤ .dropForeignKey by decide)
  · have hchild : table ∈ c.old.tables := (List.mem_filter.mp (List.mem_filter.mp htable).1).1
    refine SchemaState.mem_tableNames_run ?_ ?_
    · rw [SchemaState.ofSchema_tableNames]
      exact holdRefs table hchild key hmem
    · -- A table that refers to a dropped one has been dropped before.
      intro hdrop
      obtain ⟨front, back, rfl⟩ := List.append_of_mem hdrop
      by_cases hself : table.name = key.refTable
      · rw [← hsame, hself] at hstays
        exact hstays (by simp)
      · have hsplit : c.steps = front ++ .dropTable key.refTable :: (back ++ rest) := by
          rw [← h.whole]
          simp
        have hfront := dropTable_mem_front (by rw [hoptions]; rfl) hacyclic hsplit
          ⟨hself, table, htable, rfl, key, hmem, rfl⟩
        rw [hsame] at hfront
        exact hstays (List.mem_append_left _ hfront)

/-- Without a cycle of references every table is free when it is dropped. -/
theorem isFree_of_acyclic (hold : c.old.WellFormed) (hnew : c.new.WellFormed)
    (hoptions : c.options = .default) (holdRefs : c.old.RefersWithin)
    (hnewRefs : c.new.RefersWithin)
    (hacyclic : ∀ name, ¬ Relation.TransGen c.RefersMissing name name) {front back : List Step}
    {name : Text} (hsplit : c.steps = front ++ .dropTable name :: back) :
    ((SchemaState.ofSchema c.old).run front).IsFree name := by
  rintro t ht hne key hkey rfl
  have h : c.Parting .dropTable front (.dropTable key.refTable :: back) :=
    Phase.parting_of_eq_append c.pairwise_steps hsplit
  rcases h.foreignKey_cases hold hnew hoptions holdRefs hnewRefs ht hkey with
    ⟨hname, -⟩ | ⟨-, hp⟩ | ⟨table, htable, hsame, hmem, hstays⟩
  · exact dropTable_notMem_of_new hname (by simp [hsplit])
  · exact absurd hp (by decide)
  · refine hstays ?_
    exact dropTable_mem_front (by rw [hoptions]; rfl) hacyclic hsplit
      ⟨hne, table, htable, hsame, key, hmem, rfl⟩

/-- A foreign key is added when the table that it refers to is there. -/
theorem refTable_mem_of_addForeignKey (hnew : c.new.WellFormed) (hoptions : c.options = .default)
    (hnewRefs : c.new.RefersWithin) {front back : List Step} {table : Text} {step : TableStep}
    {key : ForeignKey}
    (hsplit : c.steps = front ++ .alterTable table step :: back)
    (hchange : step.change = .addForeignKey key) :
    key.refTable ∈ ((SchemaState.ofSchema c.old).run front).tableNames := by
  have h := Phase.parting_of_eq_append c.pairwise_steps hsplit
  have hphase : (Step.alterTable table step).phase = .addForeignKey := by
    rw [Step.phase, hchange]
    rfl
  rw [hphase] at h
  refine Parting.mem_tableNames_of_new h hnew hoptions ?_ (Or.inr (by decide))
  have hmem : .alterTable table step ∈ c.steps := by simp [hsplit]
  rcases alterTable_mem.mp hmem with ⟨other, -, comparison, hcomparison, -, hstep⟩ |
    ⟨created, hcreated, -, found, hfound, rfl⟩
  · obtain ⟨new, hnewTable, rfl⟩ := tableComparison?_eq_some.mp hcomparison
    have hadd : .addForeignKey key ∈ TableComparison.changes _ :=
      Phase.mem_arrange.mpr (List.mem_map.mpr ⟨step, hstep, hchange⟩)
    exact hnewRefs new (mem_of_find?_eq_some hnewTable).1 key
      (TableComparison.addForeignKey_mem.mp hadd).1
  · obtain rfl := TableChange.addForeignKey.inj hchange
    exact hnewRefs created (new_of_mem_createdTables hcreated).1 found hfound

end SchemaComparison

/-- What grows with every step of a relation grows on the way along several. -/
theorem lt_of_transGen {r : Text → Text → Prop} (place : Text → Nat)
    (h : ∀ x y, r x y → place x < place y) {x y : Text} (hpath : Relation.TransGen r x y) :
    place x < place y := by
  induction hpath with
  | single hstep => exact h _ _ hstep
  | tail _ hstep ih => exact ih.trans (h _ _ hstep)

/-- Foreign keys refer to tables that are there: the statements ask for steps, and between any two
schemas that were read and refer to no other tables than their own, every foreign key is added when
the table that it refers to is there. And no table is dropped to which another one refers, and no
foreign key ever dangles, just if the tables that go away do not refer to each other in a cycle. -/
theorem isClosed_of_run {c : SchemaComparison} {keepQuotes keepQuotes' : Bool}
    {source source' oldText newText : Text}
    (hold : Schema.parse keepQuotes source oldText = .ok c.old)
    (hnew : Schema.parse keepQuotes' source' newText = .ok c.new)
    (hoptions : c.options = .default) (holdRefs : c.old.RefersWithin)
    (hnewRefs : c.new.RefersWithin) :
    List.Forall₂ Statement.Executes c.statements c.steps ∧
    (∀ front table step key back, c.steps = front ++ .alterTable table step :: back →
      step.change = .addForeignKey key →
        key.refTable ∈ ((SchemaState.ofSchema c.old).run front).tableNames) ∧
    (((∀ front name back, c.steps = front ++ .dropTable name :: back →
        ((SchemaState.ofSchema c.old).run front).IsFree name) ∧
      ∀ k, ((SchemaState.ofSchema c.old).run (c.steps.take k)).IsClosed) ↔
    ∀ name, ¬ Relation.TransGen c.RefersMissing name name) := by
  have holdFormed : c.old.WellFormed := Schema.wellFormed_of_parse hold
  have hnewFormed : c.new.WellFormed := Schema.wellFormed_of_parse hnew
  have hdrops : c.options.dropsMissing = true := by
    rw [hoptions]
    rfl
  refine ⟨c.executes_statements, ?_, ?_, ?_⟩
  · intro front table step key back hsplit hchange
    exact SchemaComparison.refTable_mem_of_addForeignKey hnewFormed hoptions hnewRefs
      hsplit hchange
  · rintro ⟨hfree, -⟩ name hcycle
    -- The places of the drops cannot go up all the way round.
    have hgrows : ∀ x y, c.RefersMissing x y →
        c.steps.idxOf (.dropTable x) < c.steps.idxOf (.dropTable y) := fun _ _ hrefers =>
      SchemaComparison.idxOf_dropTable_lt holdFormed hdrops hfree hrefers
    exact lt_irrefl _
      (lt_of_transGen (fun table => c.steps.idxOf (.dropTable table)) hgrows hcycle)
  · intro hacyclic
    refine ⟨?_, ?_⟩
    · intro front name back hsplit
      exact SchemaComparison.isFree_of_acyclic holdFormed hnewFormed hoptions holdRefs hnewRefs
        hacyclic hsplit
    · intro k
      obtain ⟨p, (h : c.Parting p (c.steps.take k) (c.steps.drop k))⟩ :=
        Phase.exists_parting c.pairwise_steps k
      exact h.isClosed holdFormed hnewFormed hoptions holdRefs hnewRefs hacyclic

/-- A table with a foreign key to another one, or to itself. -/
def linkText (name target : Text) : Text :=
  "CREATE TABLE " ++ name ++ " (\n  id int,\n  up int,\n  PRIMARY KEY (id),\n  KEY up (up),\n" ++
  "  CONSTRAINT f FOREIGN KEY (up) REFERENCES " ++ target ++ " (id)\n);"

/-- That table. -/
def linkTable (name target : Text) : Table where
  name := name
  columns := [⟨"id", "int", 0⟩, ⟨"up", "int", 1⟩]
  indexes := [⟨"up", .plain, ["up"], []⟩]
  primaryKey := some ⟨["id"], []⟩
  foreignKeys := [⟨"f", ["up"], target, ["id"], []⟩]
  checks := []
  options := []
  definition := linkText name target

/-- Tables that refer to each other go away. -/
def circle : SchemaComparison where
  old := { Schema.empty [] with tables := [linkTable "a" "b", linkTable "b" "a"] }
  new := .empty []
  options := .default

/-- Tables go away that refer to one another in a row, the last one to itself. -/
def chain : SchemaComparison where
  old := { Schema.empty [] with
    tables := [linkTable "a" "a", linkTable "b" "a", linkTable "c" "b"] }
  new := .empty []
  options := .default

/-- The tables of a circle cannot go without a moment at which a foreign key dangles, those of a
chain can, although one of them refers to itself. -/
theorem isClosed_of_run_chain :
    ¬ ((∀ front name back, circle.steps = front ++ .dropTable name :: back →
        ((SchemaState.ofSchema circle.old).run front).IsFree name) ∧
      ∀ k, ((SchemaState.ofSchema circle.old).run (circle.steps.take k)).IsClosed) ∧
    (∀ front name back, chain.steps = front ++ .dropTable name :: back →
        ((SchemaState.ofSchema chain.old).run front).IsFree name) ∧
      ∀ k, ((SchemaState.ofSchema chain.old).run (chain.steps.take k)).IsClosed := by
  constructor
  · rw [(isClosed_of_run
      (show Schema.parse false [] (linkText "a" "b" ++ "\n" ++ linkText "b" "a") = .ok circle.old by
        decide +kernel)
      (show Schema.parse false [] [] = .ok circle.new by decide +kernel)
      rfl (by decide +kernel) (by decide +kernel)).2.2]
    intro hacyclic
    have hab : circle.RefersMissing "a" "b" :=
      SchemaComparison.mem_referrers.mp (by decide +kernel)
    have hba : circle.RefersMissing "b" "a" :=
      SchemaComparison.mem_referrers.mp (by decide +kernel)
    exact hacyclic "a" (.tail (.single hab) hba)
  · rw [(isClosed_of_run
      (show Schema.parse false [] (linkText "a" "a" ++ "\n" ++ linkText "b" "a" ++ "\n" ++
        linkText "c" "b") = .ok chain.old by decide +kernel)
      (show Schema.parse false [] [] = .ok chain.new by decide +kernel)
      rfl (by decide +kernel) (by decide +kernel)).2.2]
    intro name hcycle
    have hrow : ∀ table ∈ chain.missingTables, ∀ key ∈ table.foreignKeys,
        table.name ≠ key.refTable →
          (["c", "b", "a"] : List Text).idxOf table.name
            < (["c", "b", "a"] : List Text).idxOf key.refTable := by
      decide +kernel
    refine lt_irrefl _ (lt_of_transGen (["c", "b", "a"] : List Text).idxOf ?_ hcycle)
    rintro _ _ ⟨hne, table, htable, rfl, key, hkey, rfl⟩
    exact hrow table htable key hkey hne

end SchemaMigration
