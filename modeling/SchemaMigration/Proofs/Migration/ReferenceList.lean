import SchemaMigration.Proofs.Migration.CreationOrder

/-!
# The listing of references

The references of a schema are listed as if it were created from nothing: the tables that the
filter selects, and those that they lead to by references within the schema, each once and behind
those that it refers to, as far as references have no cycle. Behind the name of a table stand all
tables that it refers to, whether the schema has them or not.

## Main Definitions

* `Schema.Refers` - a table of a schema refers to a table of it
* `Schema.fromNothing` - the comparison that creates the selected tables of a schema
* `Schema.references_eq` - the listing has the tables that this comparison creates
* `Schema.references_reachable` - which tables are listed, and in which order
-/

namespace SchemaMigration

namespace Schema

/-- A table that is found in a schema has a foreign key to a table that is found in it. -/
def Refers (schema : Schema) (child parent : Table) : Prop :=
  schema.table? child.name = some child ∧ schema.table? parent.name = some parent ∧
    ∃ key ∈ child.foreignKeys, key.refTable = parent.name

/-- The comparison that creates the selected tables of a schema, and those that they lead to. -/
def fromNothing (schema : Schema) (options : Options) : SchemaComparison where
  old := Schema.empty []
  new := schema
  options := { options with onlyBoth := false }

variable {schema : Schema} {options : Options}

theorem isAdded_fromNothing {table : Table} :
    (schema.fromNothing options).IsAdded table ↔ schema.table? table.name = some table :=
  and_iff_left rfl

theorem refersAdded_fromNothing : (schema.fromNothing options).RefersAdded = schema.Refers := by
  funext child parent
  rw [SchemaComparison.RefersAdded, isAdded_fromNothing, isAdded_fromNothing,
    Table.mem_referencedTables, Refers]

/-- All tables of the schema are new. -/
theorem isNewTable_fromNothing :
    (schema.fromNothing options).isNewTable = fun name => (schema.table? name).isSome :=
  funext fun _ => Bool.and_true _

/-- The listing has the tables that are created when the schema is created from nothing. -/
theorem references_eq (schema : Schema) (options : Options) :
    schema.references options = (schema.fromNothing options).createdTables.map (fun table => {
      phase := .createTable
      name := table.name
      action := "ref_table"
      sql := []
      comment := []
      isSpaced := false
      referencedTables := table.referencedTables : Statement }) := by
  have hcreated : (schema.fromNothing options).createdTables =
      (dependencyOrder (schema.fromNothing options).newReferences schema.tables.length
        (schema.fromNothing options).selectedNames).filterMap schema.table? := by
    rw [SchemaComparison.createdTables, SchemaComparison.createdFor, if_neg (by simp [fromNothing])]
    rfl
  have hselected : (schema.fromNothing options).selectedNames =
      (schema.tables.map (·.name)).filter options.selects :=
    List.filter_congr fun _ _ => Bool.and_true _
  have hnext : (schema.fromNothing options).newReferences = fun name =>
      ((schema.table? name).map fun table =>
        table.referencedTables.filter fun ref => (schema.table? ref).isSome).getD [] := by
    funext name
    rw [SchemaComparison.newReferences, isNewTable_fromNothing, fromNothing]
    cases schema.table? name <;> rfl
  rw [hcreated, hselected, hnext, references]
  refine congrArg (fun next => ((dependencyOrder next _ _).filterMap schema.table?).map _) ?_
  funext name
  cases schema.table? name <;> rfl

/-- The tables that are created from nothing are those that selected ones lead to. -/
theorem mem_createdTables_fromNothing {table : Table} :
    table ∈ (schema.fromNothing options).createdTables ↔ schema.table? table.name = some table ∧
      ∃ first, schema.table? first.name = some first ∧ options.selects first.name = true ∧
        Relation.ReflTransGen schema.Refers first table := by
  let c := schema.fromNothing options
  have honly : c.options.onlyBoth = false := rfl
  have hsame : c.RefersAdded = schema.Refers := refersAdded_fromNothing
  have hlisted {name : Text} :
      name ∈ dependencyOrder c.newReferences c.new.tables.length c.selectedNames ↔ _ :=
    mem_dependencyOrder (fun name _ => SchemaComparison.newReferences_subset name)
      (by simp) SchemaComparison.selectedNames_subset
  constructor
  · intro htable
    have hadded := SchemaComparison.isAdded_of_mem_createdTables honly htable
    obtain ⟨name, hname, hleads⟩ := hlisted.mp ((hadded.mem_createdTables honly).mp htable)
    obtain ⟨hnew, hselects⟩ := SchemaComparison.mem_selectedNames.mp hname
    obtain ⟨first, hfirst, rfl⟩ := SchemaComparison.isNewTable_iff.mp hnew
    refine ⟨isAdded_fromNothing.mp hadded, first, isAdded_fromNothing.mp hfirst, hselects, ?_⟩
    rw [← hsame]
    exact SchemaComparison.refersAdded_of_leads hadded hleads hfirst rfl
  · rintro ⟨htable, first, hfirst, hselects, hpath⟩
    have hadded : c.IsAdded first := isAdded_fromNothing.mpr hfirst
    refine ((isAdded_fromNothing.mpr htable).mem_createdTables honly).mpr (hlisted.mpr ?_)
    refine ⟨first.name, SchemaComparison.mem_selectedNames.mpr
      ⟨SchemaComparison.isNewTable_iff.mpr ⟨first, hadded, rfl⟩, hselects⟩, ?_⟩
    refine hpath.lift Table.name fun child parent hrefers => ?_
    rw [← hsame] at hrefers
    exact hrefers.1.mem_newReferences.mpr ⟨parent, hrefers, rfl⟩

/-- The listing of a schema has the tables of the schema that the filter selects and those that
they lead to by references within the schema, each once and no other. With each stand all tables
that it refers to, also such as the schema does not have. A table comes behind every other table of
the schema that it refers to, unless that one refers to it as well, directly or by way of further
tables of the schema. -/
theorem references_reachable (schema : Schema) (options : Options) :
    ∃ listed : List Table,
      schema.references options = listed.map (fun table => {
        phase := .createTable
        name := table.name
        action := "ref_table"
        sql := []
        comment := []
        isSpaced := false
        referencedTables := table.referencedTables : Statement }) ∧
      (∀ table ∈ listed, ∀ name, name ∈ table.referencedTables ↔
        ∃ key ∈ table.foreignKeys, key.refTable = name) ∧
      (listed.map (·.name)).Nodup ∧
      (∀ table, table ∈ listed ↔ schema.table? table.name = some table ∧
        ∃ first, schema.table? first.name = some first ∧ options.selects first.name = true ∧
          Relation.ReflTransGen schema.Refers first table) ∧
      ∀ front child back, listed = front ++ child :: back →
        ∀ parent, schema.Refers child parent → parent ≠ child →
          parent ∈ front ∨ Relation.TransGen schema.Refers parent child := by
  let c := schema.fromNothing options
  have honly : c.options.onlyBoth = false := rfl
  refine ⟨c.createdTables, references_eq schema options, fun table _ name =>
    Table.mem_referencedTables, SchemaComparison.nodup_createdTables honly,
    fun table => mem_createdTables_fromNothing, ?_⟩
  intro front child back hsplit parent hrefers hne
  rw [← refersAdded_fromNothing] at hrefers ⊢
  exact SchemaComparison.mem_front_createdTables honly hsplit hrefers hne

/-- A selected table and one that is not refer to each other; the former refers to a table as well
that the schema does not have. Nothing leads to the third one. -/
def severed : Schema :=
  { empty [] with
    tables := [linkTable "b" "a",
      { linkTable "a" "b" with
        foreignKeys := [⟨"f", ["up"], "b", ["id"], []⟩, ⟨"g", ["up"], "gone", ["id"], []⟩] },
      linkTable "x" "b"] }

/-- The table that is not selected comes first, although it refers to the other one, and so that
one refers to it. The table that is missing is told and not listed. -/
theorem references_reachable_severed :
    (severed.references selectingA).map
        (fun statement => (statement.name, statement.action, statement.referencedTables))
      = ([("b", "ref_table", ["a"]), ("a", "ref_table", ["b", "gone"])] :
          List (Text × Text × List Text)) ∧
    ∃ first second, severed.table? "a" = some first ∧ severed.table? "b" = some second ∧
      Relation.TransGen severed.Refers first second := by
  obtain ⟨listed, hstatements, -, -, hlisted, horder⟩ := references_reachable severed selectingA
  have hnames : listed.map (·.name) = ["b".toList, "a".toList] := by
    have hlisting : (severed.references selectingA).map (·.name) = ["b".toList, "a".toList] := by
      decide +kernel
    rwa [hstatements, List.map_map] at hlisting
  refine ⟨by decide +kernel, ?_⟩
  obtain ⟨second, back, rfl, hsecond, hback⟩ := List.map_eq_cons_iff.mp hnames
  obtain ⟨first, rest, rfl, hfirst, -⟩ := List.map_eq_cons_iff.mp hback
  have hb := ((hlisted second).mp (by simp)).1
  have ha := ((hlisted first).mp (by simp)).1
  rw [hsecond] at hb
  rw [hfirst] at ha
  refine ⟨first, second, ha, hb, ?_⟩
  have hrefers : severed.Refers second first := by
    refine ⟨by rw [hsecond, hb], by rw [hfirst, ha], ?_⟩
    obtain rfl : linkTable "b" "a" = second := Option.some.inj (Eq.trans rfl hb)
    exact ⟨_, List.mem_singleton_self _, hfirst.symm⟩
  have hne : first ≠ second := by
    rintro rfl
    exact absurd (hfirst.symm.trans hsecond) (by decide)
  exact (horder [] second _ rfl first hrefers hne).resolve_left List.not_mem_nil

end Schema

end SchemaMigration
