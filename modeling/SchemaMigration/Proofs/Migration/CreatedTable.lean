import SchemaMigration.Options.Config
import SchemaMigration.Proofs.Migration.ReferencedTable

/-!
# Tables that are created for foreign keys

A table that only the second schema has is created if the table filter selects it, or if a table
that is created refers to it. So whatever the filter is, the foreign keys of created tables refer
to tables that are there. Those that a table of both schemas gets are not asked: if the filter does
not select the table that such a key refers to, it is only there if some created table refers to
it as well.

## Main Definitions

* `SchemaComparison.RefersNew` - a new table refers to another one
* `SchemaComparison.IsReached` - a selected new table leads to a name
* `SchemaComparison.Finds` - a table is in the first schema or has been created
* `map_name_createdTables` - the tables that are created are those that the walk lists
* `mem_createdNames_iff` - the tables that are reached are those that are created
* `finds_of_createdTable` - the foreign keys of created tables find theirs
* `finds_refTable_iff` - when all foreign keys do

## Design Notes

Foreign keys are added in a later phase than tables are created, so a table that is created at all
is there in time; what counts is whether it is.
-/

namespace SchemaMigration

namespace SchemaComparison

variable {c : SchemaComparison}

/-- A table that only the second schema has refers to another one. -/
def RefersNew (c : SchemaComparison) (child parent : Text) : Prop :=
  c.isNewTable parent = true ∧
    ∃ table, c.new.table? child = some table ∧ ∃ key ∈ table.foreignKeys, key.refTable = parent

/-- A table that only the second schema has and that the filter selects leads to a name, in any
number of references. -/
def IsReached (c : SchemaComparison) (name : Text) : Prop :=
  ∃ first, c.isNewTable first = true ∧ c.options.selects first = true ∧
    Relation.ReflTransGen c.RefersNew first name

/-- A table of a name is in the first schema, or one of the steps creates it. -/
def Finds (c : SchemaComparison) (steps : List Step) (name : Text) : Prop :=
  name ∈ c.old.tables.map (·.name) ∨ ∃ table, .createTable table ∈ steps ∧ table.name = name

/-- The walk over created tables leads from a table to those that it refers to. -/
theorem mem_newReferences {child parent : Text} :
    parent ∈ c.newReferences child ↔ c.RefersNew child parent := by
  rw [newReferences, RefersNew]
  cases c.new.table? child with
  | none => simp
  | some table => simp [Table.mem_referencedTables, and_comm]

theorem newReferences_subset (name : Text) :
    c.newReferences name ⊆ c.new.tables.map (·.name) := by
  intro other hother
  have hnew := (mem_newReferences.mp hother).1
  simp only [isNewTable, Bool.and_eq_true] at hnew
  by_contra hnone
  rw [Schema.table?, find?_eq_none_iff.mpr hnone] at hnew
  exact absurd hnew.1 (by simp)

/-- The names of the tables that are created for themselves. -/
def selectedNames (c : SchemaComparison) : List Text :=
  (c.new.tables.map (·.name)).filter fun name =>
    c.options.selects name && (c.old.table? name).isNone

theorem selectedNames_subset : c.selectedNames ⊆ c.new.tables.map (·.name) :=
  List.filter_sublist.subset

theorem mem_selectedNames {name : Text} : name ∈ c.selectedNames ↔
    c.isNewTable name = true ∧ c.options.selects name = true := by
  simp only [selectedNames, List.mem_filter, isNewTable, Bool.and_eq_true, Schema.table?,
    List.find?_isSome, List.mem_map, beq_iff_eq]
  exact ⟨fun h => ⟨⟨h.1, h.2.2⟩, h.2.1⟩, fun h => ⟨h.1.1, h.2, h.1.2⟩⟩

/-- The tables that are created are those of the names that the walk lists. -/
theorem map_name_createdTables (honly : c.options.onlyBoth = false) :
    c.createdTables.map (·.name)
      = dependencyOrder c.newReferences c.new.tables.length c.selectedNames := by
  have hfound : ∀ name ∈ dependencyOrder c.newReferences c.new.tables.length c.selectedNames,
      (c.new.table? name).map (·.name) = some name := by
    intro name hname
    have hmem : name ∈ c.new.tables.map (·.name) := forall_mem_dependencyOrder
      (P := fun name => name ∈ c.new.tables.map Table.name)
      (fun _ hselected => selectedNames_subset hselected)
      (fun name _ _ hother => newReferences_subset name hother) name hname
    cases htable : c.new.table? name with
    | none => exact absurd hmem (find?_eq_none_iff.mp htable)
    | some table => exact congrArg some (mem_of_find?_eq_some htable).2
  rw [createdTables, createdFor, if_neg (by simp [honly]), List.map_filterMap]
  exact (List.filterMap_congr hfound).trans List.filterMap_some

/-- The tables that are created are those to which a selected new one leads. -/
theorem mem_createdNames_iff (honly : c.options.onlyBoth = false) {name : Text} :
    name ∈ c.createdTables.map (·.name) ↔ c.IsReached name := by
  rw [map_name_createdTables honly, mem_dependencyOrder (fun _ _ => newReferences_subset _)
    (by simp) selectedNames_subset, IsReached]
  refine exists_congr fun first => ?_
  rw [mem_selectedNames, and_assoc]
  refine and_congr_right' (and_congr_right' ?_)
  have hsame : Walk.Leads c.newReferences = c.RefersNew := by
    funext child parent
    exact propext mem_newReferences
  rw [hsame]

/-- A created table is the one of its name in the second schema. -/
theorem table?_of_mem_createdTables {table : Table} (h : table ∈ c.createdTables) :
    c.new.table? table.name = some table := by
  rw [createdTables, createdFor] at h
  split at h
  · cases h
  · obtain ⟨name, -, htable⟩ := List.mem_filterMap.mp h
    rwa [← (mem_of_find?_eq_some htable).2] at htable

/-- A foreign key finds its table when it is added, if that is found at all. -/
theorem finds_iff (honly : c.options.onlyBoth = false) {front back : List Step} {table : Text}
    {step : TableStep} {key : ForeignKey}
    (hsplit : c.steps = front ++ .alterTable table step :: back)
    (hchange : step.change = .addForeignKey key) : c.Finds front key.refTable ↔
      key.refTable ∈ c.old.tables.map (·.name) ∨ c.IsReached key.refTable := by
  rw [Finds, ← mem_createdNames_iff honly]
  refine or_congr_right ?_
  rw [List.mem_map]
  refine exists_congr fun created => and_congr_left' ?_
  have hphase : (Step.alterTable table step).phase = .addForeignKey := by
    rw [Step.phase, hchange]
    rfl
  have hparting := Phase.parting_of_eq_append c.pairwise_steps hsplit
  rw [hphase] at hparting
  exact ⟨fun hfront => createTable_mem (hparting.mem_of_done hfront), fun hcreated =>
    hparting.mem_done (createTable_mem_of_mem hcreated)
      (show Phase.createTable < .addForeignKey by decide)⟩

/-- The foreign keys of created tables find their tables. -/
theorem finds_of_createdTable (honly : c.options.onlyBoth = false) (hrefs : c.new.RefersWithin)
    {table : Table} (hcreated : table ∈ c.createdTables) {key : ForeignKey}
    (hkey : key ∈ table.foreignKeys) :
    key.refTable ∈ c.old.tables.map (·.name) ∨ c.IsReached key.refTable := by
  by_cases hold : key.refTable ∈ c.old.tables.map (·.name)
  · exact .inl hold
  · have htable := table?_of_mem_createdTables hcreated
    obtain ⟨first, hfirst, hselected, hpath⟩ :=
      (mem_createdNames_iff honly).mp (List.mem_map_of_mem hcreated)
    have hnew : c.isNewTable key.refTable = true := by
      rw [isNewTable, Bool.and_eq_true, Option.isNone_iff_eq_none, Schema.table?, Schema.table?,
        List.find?_isSome, find?_eq_none_iff]
      refine ⟨?_, hold⟩
      simpa using hrefs table (mem_of_find?_eq_some htable).1 key hkey
    exact .inr ⟨first, hfirst, hselected, hpath.tail ⟨hnew, table, htable, key, hkey, rfl⟩⟩

end SchemaComparison

/-- The statements add foreign keys when the table that they refer to is in the first schema or has
been created, whatever the table filter: those of created tables always are. Those of a table of
both schemas are just if each key that it gets refers to a table of the first schema, or to one to
which a selected new table leads. -/
theorem finds_refTable_iff {c : SchemaComparison} (honly : c.options.onlyBoth = false)
    (hrefs : c.new.RefersWithin) :
    List.Forall₂ Statement.Executes c.statements c.steps ∧
    (∀ front table step key back, c.steps = front ++ .alterTable table step :: back →
      step.change = .addForeignKey key → c.old.table? table = none →
        c.Finds front key.refTable) ∧
    ((∀ front table step key back, c.steps = front ++ .alterTable table step :: back →
        step.change = .addForeignKey key → c.Finds front key.refTable) ↔
      ∀ table ∈ c.selectedTables, ∀ new, c.new.table? table.name = some new →
        ∀ key ∈ new.foreignKeys, table.foreignKey? key.name ≠ some key →
          key.refTable ∈ c.old.tables.map (·.name) ∨ c.IsReached key.refTable) := by
  -- A key comes from the comparison of its table, or with a created table.
  have hcases : ∀ front table step key back, c.steps = front ++ .alterTable table step :: back →
      step.change = .addForeignKey key →
      (∃ old ∈ c.selectedTables, old.name = table ∧ ∃ new, c.new.table? old.name = some new ∧
        key ∈ new.foreignKeys ∧ old.foreignKey? key.name ≠ some key) ∨
      c.Finds front key.refTable := by
    intro front table step key back hsplit hchange
    have hmem : .alterTable table step ∈ c.steps := by simp [hsplit]
    rcases SchemaComparison.alterTable_mem.mp hmem with
      ⟨old, hold, comparison, hcomparison, hname, hstep⟩ | ⟨created, hcreated, -, other, hkey, rfl⟩
    · obtain ⟨new, hnew, rfl⟩ := SchemaComparison.tableComparison?_eq_some.mp hcomparison
      have hadd : .addForeignKey key ∈ TableComparison.changes _ :=
        Phase.mem_arrange.mpr (List.mem_map.mpr ⟨step, hstep, hchange⟩)
      exact .inl ⟨old, hold, hname, new, hnew, TableComparison.addForeignKey_mem.mp hadd⟩
    · obtain rfl := TableChange.addForeignKey.inj hchange
      exact .inr ((SchemaComparison.finds_iff honly hsplit rfl).mpr
        (SchemaComparison.finds_of_createdTable honly hrefs hcreated hkey))
  refine ⟨c.executes_statements, ?_, ?_, ?_⟩
  · intro front table step key back hsplit hchange hnone
    rcases hcases front table step key back hsplit hchange with ⟨old, hold, rfl, -⟩ | hfinds
    · have hmem : old ∈ c.old.tables := (List.mem_filter.mp hold).1
      exact absurd (List.mem_map_of_mem hmem) (find?_eq_none_iff.mp hnone)
    · exact hfinds
  · intro hfinds table htable new hnew key hkey hadded
    have hadd : .addForeignKey key ∈ TableComparison.changes
        ⟨table, new, c.options, c.incoming table.name⟩ :=
      TableComparison.addForeignKey_mem.mpr ⟨hkey, hadded⟩
    obtain ⟨step, hstep, hchange⟩ := List.mem_map.mp (Phase.mem_arrange.mp hadd)
    have hmem : .alterTable table.name step ∈ c.steps := SchemaComparison.alterTable_mem.mpr
      (.inl ⟨table, htable, _, SchemaComparison.tableComparison?_eq_some.mpr ⟨new, hnew, rfl⟩,
        rfl, hstep⟩)
    obtain ⟨front, back, hsplit⟩ := List.append_of_mem hmem
    exact (SchemaComparison.finds_iff honly hsplit hchange).mp
      (hfinds front _ step key back hsplit hchange)
  · intro hreached front table step key back hsplit hchange
    rcases hcases front table step key back hsplit hchange with
      ⟨old, hold, -, new, hnew, hkey, hadded⟩ | hfinds
    · exact (SchemaComparison.finds_iff honly hsplit hchange).mpr
        (hreached old hold new hnew key hkey hadded)
    · exact hfinds

/-- The options whose table filter selects the names that begin with an `a`. -/
def selectingA : Options :=
  ((Options.withTableRe .default (some "^a")).toOption).getD .default

/-- A table that gets a foreign key to a new one, which the filter does not select. -/
def passedOver : SchemaComparison where
  old := { Schema.empty [] with tables := [{ linkTable "a" "b" with foreignKeys := [] }] }
  new := { Schema.empty [] with tables := [linkTable "a" "b", linkTable "b" "b"] }
  options := selectingA

/-- The same, and a new table that is selected and refers to the one that is not. -/
def followed : SchemaComparison where
  old := { Schema.empty [] with tables := [{ linkTable "a" "b" with foreignKeys := [] }] }
  new := { Schema.empty [] with
    tables := [linkTable "a" "b", linkTable "ab" "b", linkTable "b" "b"] }
  options := selectingA

/-- The filter passes over a table to which a foreign key is added; it does not if a selected new
table refers to it. -/
theorem finds_refTable_iff_followed :
    ¬ (∀ front table step key back,
        passedOver.steps = front ++ .alterTable table step :: back →
          step.change = .addForeignKey key → passedOver.Finds front key.refTable) ∧
    ∀ front table step key back, followed.steps = front ++ .alterTable table step :: back →
      step.change = .addForeignKey key → followed.Finds front key.refTable := by
  constructor
  · rw [(finds_refTable_iff (show passedOver.options.onlyBoth = false by decide +kernel)
      (by decide +kernel)).2.2]
    intro hreached
    rcases hreached { linkTable "a" "b" with foreignKeys := [] } (by decide +kernel)
      (linkTable "a" "b") (by decide +kernel) ⟨"f", ["up"], "b", ["id"], []⟩ (by decide +kernel)
      (by decide +kernel) with hold | hnew
    · exact absurd hold (by decide +kernel)
    · rw [← SchemaComparison.mem_createdNames_iff (by decide +kernel)] at hnew
      exact absurd hnew (by decide +kernel)
  · rw [(finds_refTable_iff (show followed.options.onlyBoth = false by decide +kernel)
      (by decide +kernel)).2.2]
    have hcreated : ∀ table ∈ followed.selectedTables, ∀ new ∈ followed.new.table? table.name,
        ∀ key ∈ new.foreignKeys, key.refTable ∈ followed.createdTables.map (·.name) := by
      decide +kernel
    intro table htable new hnew key hkey _
    exact .inr ((SchemaComparison.mem_createdNames_iff (by decide +kernel)).mp
      (hcreated table htable new hnew key hkey))

end SchemaMigration
