import Mathlib.Order.Bounds.Basic
import SchemaMigration.Proofs.Migration.CreatedTable
import SchemaMigration.Proofs.Walk

/-!
# The order in which tables are created

Of the tables that only the second schema has, those are created that the table filter selects,
and those that created ones refer to: no others, and each once. A table is created behind those
that it refers to, unless references run in a circle.

## Main Definitions

* `SchemaComparison.IsAdded` - a table that only the second schema has
* `SchemaComparison.RefersAdded` - one of these refers to another one
* `SchemaComparison.createdTables_subset` - no table is created that need not be
* `SchemaComparison.mem_front_createdTables` - a table comes behind those that it refers to
* `createdTables_isLeast` - which tables are created, and in which order
-/

namespace SchemaMigration

namespace SchemaComparison

variable {c : SchemaComparison}

/-- A table of the second schema whose name the first one does not have. -/
def IsAdded (c : SchemaComparison) (table : Table) : Prop :=
  c.new.table? table.name = some table ∧ c.old.table? table.name = none

/-- A table that only the second schema has refers to a table that only the second schema has. -/
def RefersAdded (c : SchemaComparison) (child parent : Table) : Prop :=
  c.IsAdded child ∧ c.IsAdded parent ∧ parent.name ∈ child.referencedTables

theorem isNewTable_iff {name : Text} :
    c.isNewTable name = true ↔ ∃ table, c.IsAdded table ∧ table.name = name := by
  rw [isNewTable, Bool.and_eq_true, Option.isSome_iff_exists, Option.isNone_iff_eq_none]
  constructor
  · rintro ⟨⟨table, htable⟩, hnone⟩
    obtain rfl := (mem_of_find?_eq_some htable).2
    exact ⟨table, ⟨htable, hnone⟩, rfl⟩
  · rintro ⟨table, ⟨htable, hnone⟩, rfl⟩
    exact ⟨⟨table, htable⟩, hnone⟩

/-- A table is the only one of its name that is added. -/
theorem IsAdded.eq_of_name {table other : Table} (h : c.IsAdded table) (hother : c.IsAdded other)
    (hname : table.name = other.name) : table = other := by
  have hsame := h.1
  rw [hname, hother.1] at hsame
  exact (Option.some.inj hsame).symm

/-- The walk leads from an added table to the added ones that it refers to. -/
theorem IsAdded.mem_newReferences {child : Table} (h : c.IsAdded child) {name : Text} :
    name ∈ c.newReferences child.name ↔
      ∃ parent, c.RefersAdded child parent ∧ parent.name = name := by
  rw [newReferences, h.1]
  simp only [List.mem_filter, isNewTable_iff]
  constructor
  · rintro ⟨hrefers, parent, hparent, rfl⟩
    exact ⟨parent, ⟨h, hparent, hrefers⟩, rfl⟩
  · rintro ⟨parent, ⟨-, hparent, hrefers⟩, rfl⟩
    exact ⟨hrefers, parent, hparent, rfl⟩

/-- Where the walk leads from a table to another one, so do references. -/
theorem refersAdded_of_leads {last : Table} (hlast : c.IsAdded last) {name : Text}
    (hleads : Relation.ReflTransGen (Walk.Leads c.newReferences) name last.name) {first : Table}
    (hfirst : c.IsAdded first) (hname : first.name = name) :
    Relation.ReflTransGen c.RefersAdded first last := by
  induction hleads using Relation.ReflTransGen.head_induction_on generalizing first with
  | refl =>
      obtain rfl := hfirst.eq_of_name hlast hname
      exact .refl
  | head hstep _ ih =>
      obtain rfl := hname
      obtain ⟨middle, hrefers, hmiddle⟩ := hfirst.mem_newReferences.mp hstep
      exact .head hrefers (ih hrefers.2.1 hmiddle)

/-! ## Created tables -/

theorem isAdded_of_mem_createdTables (honly : c.options.onlyBoth = false) {table : Table}
    (h : table ∈ c.createdTables) : c.IsAdded table := by
  have hlisted : table.name ∈ dependencyOrder _ _ _ :=
    map_name_createdTables honly ▸ List.mem_map_of_mem h
  have hnew : c.isNewTable table.name = true := forall_mem_dependencyOrder
    (P := fun name => c.isNewTable name = true) (fun name hname => (mem_selectedNames.mp hname).1)
    (fun name _ other hother => (mem_newReferences.mp hother).1) _ hlisted
  obtain ⟨added, hadded, hname⟩ := isNewTable_iff.mp hnew
  refine ⟨table?_of_mem_createdTables h, ?_⟩
  rw [← hname]
  exact hadded.2

theorem IsAdded.mem_createdTables (honly : c.options.onlyBoth = false) {table : Table}
    (h : c.IsAdded table) : table ∈ c.createdTables ↔
      table.name ∈ dependencyOrder c.newReferences c.new.tables.length c.selectedNames := by
  rw [← map_name_createdTables honly]
  refine ⟨List.mem_map_of_mem, fun hname => ?_⟩
  obtain ⟨created, hcreated, hsame⟩ := List.mem_map.mp hname
  rwa [← (isAdded_of_mem_createdTables honly hcreated).eq_of_name h hsame]

/-- Every created table is created once. -/
theorem nodup_createdTables (honly : c.options.onlyBoth = false) :
    (c.createdTables.map (·.name)).Nodup := by
  rw [map_name_createdTables honly]
  exact nodup_dependencyOrder (fun name _ => newReferences_subset name) (by simp)
    selectedNames_subset

/-- A set that has the selected added tables, and with a table the added ones that it refers to, has
all created tables. -/
theorem createdTables_subset (honly : c.options.onlyBoth = false) {tables : Set Table}
    (hselected : ∀ table, c.IsAdded table → c.options.selects table.name = true → table ∈ tables)
    (hclosed : ∀ table ∈ tables, ∀ parent, c.IsAdded parent →
      parent.name ∈ table.referencedTables → parent ∈ tables) {table : Table}
    (htable : table ∈ c.createdTables) : table ∈ tables := by
  have hadded := isAdded_of_mem_createdTables honly htable
  have hfirst : ∀ name ∈ c.selectedNames,
      ∃ table ∈ tables, c.IsAdded table ∧ table.name = name := by
    intro name hname
    obtain ⟨hnew, hselects⟩ := mem_selectedNames.mp hname
    obtain ⟨first, hfirst, rfl⟩ := isNewTable_iff.mp hnew
    exact ⟨first, hselected first hfirst hselects, hfirst, rfl⟩
  have hfurther : ∀ name, (∃ table ∈ tables, c.IsAdded table ∧ table.name = name) →
      ∀ other ∈ c.newReferences name, ∃ table ∈ tables, c.IsAdded table ∧ table.name = other := by
    rintro _ ⟨child, hchild, hadded, rfl⟩ other hother
    obtain ⟨parent, ⟨-, hparent, hrefers⟩, rfl⟩ := hadded.mem_newReferences.mp hother
    exact ⟨parent, hclosed child hchild parent hparent hrefers, hparent, rfl⟩
  obtain ⟨found, hfound, hsame, hname⟩ := forall_mem_dependencyOrder hfirst hfurther table.name
    ((hadded.mem_createdTables honly).mp htable)
  rwa [← hsame.eq_of_name hadded hname]

/-- A table is created behind those that it refers to, unless they lead back to it. -/
theorem mem_front_createdTables (honly : c.options.onlyBoth = false) {front back : List Table}
    {child parent : Table} (hsplit : c.createdTables = front ++ child :: back)
    (hrefers : c.RefersAdded child parent) (hne : parent ≠ child) :
    parent ∈ front ∨ Relation.TransGen c.RefersAdded parent child := by
  have hnames : dependencyOrder c.newReferences c.new.tables.length c.selectedNames
      = front.map (·.name) ++ child.name :: back.map (·.name) := by
    rw [← map_name_createdTables honly, hsplit, List.map_append, List.map_cons]
  rcases mem_front_dependencyOrder (fun name _ => newReferences_subset name) (by simp)
    selectedNames_subset hnames parent.name
    (hrefers.1.mem_newReferences.mpr ⟨parent, hrefers, rfl⟩) with hfront | hleads
  · obtain ⟨found, hfound, hsame⟩ := List.mem_map.mp hfront
    have hcreated : found ∈ c.createdTables := by simp [hsplit, hfound]
    obtain rfl := (isAdded_of_mem_createdTables honly hcreated).eq_of_name hrefers.2.1 hsame
    exact .inl hfound
  · have hback := refersAdded_of_leads hrefers.1 hleads hrefers.2.1 rfl
    rcases Relation.reflTransGen_iff_eq_or_transGen.mp hback with rfl | hcycle
    · exact absurd rfl hne
    · exact .inr hcycle

/-- Of the statements on created tables, those of the phase that creates tables are one for each
table, with its name, the SQL that creates it, and the tables that it refers to. -/
theorem filter_phase_tableCreations :
    (c.tableCreations.map Step.statement).filter (·.phase = .createTable)
      = c.createdTables.map (fun table => {
          phase := .createTable
          name := table.name
          action := "add_table"
          sql := table.createStatement
          comment := []
          isSpaced := true
          referencedTables := table.referencedTables : Statement }) := by
  have hkeys : ((c.createdTables.flatMap fun table => table.foreignKeys.map fun key =>
      Step.statement (.alterTable table.name
        { change := .addForeignKey key, action := .addForeignKey, comment := [] })).filter
          (·.phase = .createTable)) = [] := by
    rw [List.filter_eq_nil_iff]
    intro statement hstatement
    obtain ⟨table, -, hkey⟩ := List.mem_flatMap.mp hstatement
    obtain ⟨key, -, rfl⟩ := List.mem_map.mp hkey
    exact of_decide_eq_true rfl
  rw [tableCreations, List.map_append, List.filter_append, List.map_flatMap]
  simp only [List.map_map, Function.comp_def]
  rw [hkeys, List.append_nil, List.filter_eq_self.mpr]
  · rfl
  · rw [List.forall_mem_map]
    exact fun table _ => decide_eq_true rfl

end SchemaComparison

open SchemaComparison

/-- Unless only tables of both schemas are compared, the tables for which there is a statement that
creates them are the least set with every added table that the filter selects, and with a table
every added one that it refers to; each has one such statement. A table is created behind every
other one that it refers to, unless that one refers to it as well, directly or by way of further
added tables. The recursion ends whatever the references are. -/
theorem createdTables_isLeast {c : SchemaComparison} (honly : c.options.onlyBoth = false) :
    (c.tableCreations.map Step.statement).filter (·.phase = .createTable)
      = c.createdTables.map (fun table => {
          phase := .createTable
          name := table.name
          action := "add_table"
          sql := table.createStatement
          comment := []
          isSpaced := true
          referencedTables := table.referencedTables : Statement }) ∧
    (∀ table ∈ c.createdTables, ∀ name, name ∈ table.referencedTables ↔
      ∃ key ∈ table.foreignKeys, key.refTable = name) ∧
    (c.createdTables.map (·.name)).Nodup ∧
    IsLeast {tables : Set Table |
        (∀ table, c.IsAdded table → c.options.selects table.name = true → table ∈ tables) ∧
        ∀ table ∈ tables, ∀ parent, c.IsAdded parent → parent.name ∈ table.referencedTables →
          parent ∈ tables}
      {table | table ∈ c.createdTables} ∧
    (∀ front child back, c.createdTables = front ++ child :: back →
      ∀ parent ∈ c.createdTables, parent ≠ child → parent.name ∈ child.referencedTables →
        parent ∈ front ∨ Relation.TransGen c.RefersAdded parent child) ∧
    (∃! walk, Walk.Visits c.newReferences .start c.selectedNames walk) ∧
      ∀ walk, Walk.Visits c.newReferences .start c.selectedNames walk →
        walk.finished = c.createdTables.map (·.name) := by
  have hnext : ∀ name ∈ c.new.tables.map (·.name), c.newReferences name ⊆ _ :=
    fun name _ => newReferences_subset name
  have hcount : (c.new.tables.map (·.name)).length ≤ c.new.tables.length := by simp
  have hlisted := map_name_createdTables honly
  refine ⟨filter_phase_tableCreations, fun table _ name => Table.mem_referencedTables,
    nodup_createdTables honly, ⟨⟨?_, ?_⟩, ?_⟩, ?_, ?_⟩
  · intro table hadded hselects
    have hname : table.name ∈ c.selectedNames :=
      mem_selectedNames.mpr ⟨isNewTable_iff.mpr ⟨table, hadded, rfl⟩, hselects⟩
    exact (hadded.mem_createdTables honly).mpr (subset_dependencyOrder _ _ _ hname)
  · intro table htable parent hparent hrefers
    have hadded := isAdded_of_mem_createdTables honly htable
    obtain ⟨first, hfirst, hpath⟩ := (mem_dependencyOrder hnext hcount selectedNames_subset).mp
      ((hadded.mem_createdTables honly).mp htable)
    refine (hparent.mem_createdTables honly).mpr
      ((mem_dependencyOrder hnext hcount selectedNames_subset).mpr ⟨first, hfirst, hpath.tail ?_⟩)
    exact hadded.mem_newReferences.mpr ⟨parent, ⟨hadded, hparent, hrefers⟩, rfl⟩
  · rintro tables ⟨hselected, hclosed⟩ table htable
    exact createdTables_subset honly hselected hclosed htable
  · intro front child back hsplit parent hparent hne hrefers
    have hchildAdded := isAdded_of_mem_createdTables honly (hsplit ▸ by simp : child ∈ _)
    have hparentAdded := isAdded_of_mem_createdTables honly hparent
    exact mem_front_createdTables honly hsplit ⟨hchildAdded, hparentAdded, hrefers⟩ hne
  · rw [hlisted]
    exact existsUnique_visits hnext hcount selectedNames_subset

/-- A selected table refers to one of two that refer to each other; another table that refers to
them is not selected. -/
def roundTrip : SchemaComparison where
  old := { Schema.empty [] with tables := [linkTable "x" "x"] }
  new := { Schema.empty [] with
    tables := [linkTable "a" "b", linkTable "b" "c", linkTable "c" "b", linkTable "x" "x",
      linkTable "y" "b"] }
  options := selectingA

/-- The selected table comes last. One of the two that refer to each other comes first, although
it refers to the other one, and so that one refers to it. -/
theorem createdTables_isLeast_roundTrip :
    roundTrip.options.onlyBoth = false ∧
    ((roundTrip.tableCreations.map Step.statement).filter (·.phase = .createTable)).map
        (fun statement => (statement.name, statement.referencedTables))
      = ([("c", ["b"]), ("b", ["c"]), ("a", ["b"])] : List (Text × List Text)) ∧
    Relation.TransGen roundTrip.RefersAdded (linkTable "b" "c") (linkTable "c" "b") := by
  have honly : roundTrip.options.onlyBoth = false := by decide +kernel
  have hcreated : roundTrip.createdTables
      = [] ++ linkTable "c" "b" :: [linkTable "b" "c", linkTable "a" "b"] := by decide +kernel
  obtain ⟨hstatements, -, -, -, horder, -⟩ := createdTables_isLeast honly
  refine ⟨honly, ?_, ?_⟩
  · rw [hstatements, hcreated]
    decide +kernel
  · exact (horder [] _ _ hcreated (linkTable "b" "c") (by simp [hcreated]) (by decide +kernel)
      (by decide +kernel)).resolve_left List.not_mem_nil

end SchemaMigration
