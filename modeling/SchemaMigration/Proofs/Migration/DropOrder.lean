import SchemaMigration.Proofs.KeyedList
import SchemaMigration.Proofs.Migration.ReferencedTable
import SchemaMigration.Proofs.Walk

/-!
# The order in which tables are dropped

Tables that go away are dropped one after the other, each once, those that refer to others in front
of them. Only where references run in a circle is a table dropped that another one still refers to.

## Main Definitions

* `RefersAmong` - one table of a list refers to another one of it
* `Table.referringTo` - a table without its references to other tables than some
* `dropOrder_perm` - every table is dropped, in the order of references

## Design Notes

The walk runs against the references: it leads from a table to those that refer to it. So a way
back of the walk is a chain of references forth.
-/

namespace SchemaMigration

/-- A table of a list refers to a table of it. -/
def RefersAmong (tables : List Table) (child parent : Table) : Prop :=
  child ∈ tables ∧ parent ∈ tables ∧ parent.name ∈ child.referencedTables

/-- A table without the foreign keys that refer to other tables than those of some names. -/
def Table.referringTo (names : List Text) (table : Table) : Table :=
  { table with foreignKeys := table.foreignKeys.filter fun key => key.refTable ∈ names }

theorem Table.mem_referencedTables_referringTo {names : List Text} {table : Table} {name : Text} :
    name ∈ (table.referringTo names).referencedTables ↔
      name ∈ table.referencedTables ∧ name ∈ names := by
  simp only [Table.mem_referencedTables, Table.referringTo, List.mem_filter, decide_eq_true_eq]
  constructor
  · rintro ⟨key, ⟨hkey, hname⟩, rfl⟩
    exact ⟨⟨key, hkey, rfl⟩, hname⟩
  · rintro ⟨⟨key, hkey, rfl⟩, hname⟩
    exact ⟨key, ⟨hkey, hname⟩, rfl⟩

namespace SchemaComparison

variable {tables : List Table}

/-- The walk over the tables of a list leads from a table to those that refer to it. -/
theorem mem_referrers_iff {name other : Text} : other ∈ referrers tables name ↔
    ∃ table ∈ tables, table.name = other ∧ other ≠ name ∧ name ∈ table.referencedTables := by
  simp only [referrers, List.mem_map, List.mem_filter, List.contains_iff_mem, bne_iff_ne]
  constructor
  · rintro ⟨table, ⟨⟨hmem, hne⟩, hrefers⟩, rfl⟩
    exact ⟨table, hmem, rfl, hne, hrefers⟩
  · rintro ⟨table, hmem, rfl, hne, hrefers⟩
    exact ⟨table, ⟨⟨hmem, hne⟩, hrefers⟩, rfl⟩

/-- It does not lead out of the list. -/
theorem referrers_subset (tables : List Table) (name : Text) :
    referrers tables name ⊆ tables.map (·.name) :=
  ((List.filter_sublist.trans List.filter_sublist).map _).subset

/-- References to other tables do not matter to it. -/
theorem referrers_referringTo {name : Text} (hname : name ∈ tables.map (·.name)) :
    referrers (tables.map (·.referringTo (tables.map (·.name)))) name = referrers tables name := by
  have hsame (table : Table) :
      (table.referringTo (tables.map (·.name))).referencedTables.contains name
        = table.referencedTables.contains name := by
    rw [Bool.eq_iff_iff, List.contains_iff_mem, List.contains_iff_mem,
      Table.mem_referencedTables_referringTo, and_iff_left hname]
  simp only [referrers, List.filter_map, List.map_map, Function.comp_def, hsame]
  rfl

/-- Where the walk leads from a table to another one, references lead back. -/
theorem refersAmong_of_leads (hnames : (tables.map (·.name)).Nodup) {first : Table}
    (hfirst : first ∈ tables) {name : Text}
    (hleads : Relation.ReflTransGen (Walk.Leads (referrers tables)) first.name name) {last : Table}
    (hlast : last ∈ tables) (hname : last.name = name) :
    Relation.ReflTransGen (RefersAmong tables) last first := by
  induction hleads generalizing last with
  | refl =>
      obtain rfl := eq_of_key_eq hnames hlast hfirst hname
      exact .refl
  | @tail middle name _ hstep ih =>
      obtain ⟨table, htable, hsame, -, hrefers⟩ := mem_referrers_iff.mp hstep
      obtain rfl := eq_of_key_eq hnames hlast htable (hname.trans hsame.symm)
      -- the table that it refers to is the first one, or refers to one itself
      have hmiddle : middle ∈ tables.map (·.name) := by
        rename_i hpath
        rcases hpath.cases_tail with rfl | ⟨_, -, hbefore⟩
        · exact List.mem_map_of_mem hfirst
        · exact referrers_subset tables _ hbefore
      obtain ⟨parent, hparent, rfl⟩ := List.mem_map.mp hmiddle
      exact .head ⟨hlast, hparent, hrefers⟩ (ih hparent rfl)

end SchemaComparison

open SchemaComparison

/-- All tables of a list are dropped, each once. A table that refers to another one is dropped
before it, unless the other one refers to it as well, directly or by way of further tables of the
list. The recursion ends whatever the references are, and those to other tables than the ones of
the list do not matter. -/
theorem dropOrder_perm {tables : List Table} (hnames : (tables.map (·.name)).Nodup) :
    (∃ ordered : List Table, dropOrder tables = ordered.map (·.name) ∧ ordered.Perm tables ∧
      ∀ front parent back, ordered = front ++ parent :: back →
        ∀ child ∈ tables, child ≠ parent → parent.name ∈ child.referencedTables →
          child ∈ front ∨ Relation.TransGen (RefersAmong tables) parent child) ∧
    ((∃! walk, Walk.Visits (referrers tables) .start (tables.map (·.name)) walk) ∧
      ∀ walk, Walk.Visits (referrers tables) .start (tables.map (·.name)) walk →
        walk.finished = dropOrder tables) ∧
    dropOrder (tables.map (·.referringTo (tables.map (·.name)))) = dropOrder tables := by
  let all := tables.map (·.name)
  have hnext : ∀ name ∈ all, referrers tables name ⊆ all := fun name _ => referrers_subset _ name
  have hcount : all.length ≤ tables.length := by simp [all]
  have hperm : (dropOrder tables).Perm all := by
    have hnodup := nodup_dependencyOrder hnext hcount (List.Subset.refl all)
    refine (List.perm_ext_iff_of_nodup hnodup hnames).mpr fun name => ⟨?_, ?_⟩
    · exact forall_mem_dependencyOrder (fun _ h => h) hnext name
    · exact fun hname => subset_dependencyOrder _ _ _ hname
  refine ⟨?_, existsUnique_visits hnext hcount (List.Subset.refl all), ?_⟩
  · obtain ⟨ordered, hordered, htables⟩ := List.perm_comp_forall₂ hperm
      (List.forall₂_map_left_iff.mpr (List.forall₂_same.mpr fun table _ => rfl) :
        List.Forall₂ (fun name table => name = Table.name table) all tables)
    have hmap : dropOrder tables = ordered.map (·.name) :=
      List.forall₂_eq_eq_eq ▸ List.forall₂_map_right_iff.mpr hordered
    refine ⟨ordered, hmap, htables, ?_⟩
    rintro front parent back rfl child hchild hne hrefers
    have hparent : parent ∈ tables := htables.mem_iff.mp (by simp)
    have hnamesNe : child.name ≠ parent.name := fun hsame =>
      hne (eq_of_key_eq hnames hchild hparent hsame)
    have hsplit : dropOrder tables
        = front.map (·.name) ++ parent.name :: back.map (·.name) := by simpa using hmap
    rcases mem_front_dependencyOrder hnext hcount (List.Subset.refl all) hsplit child.name
      (mem_referrers_iff.mpr ⟨child, hchild, rfl, hnamesNe, hrefers⟩) with hfront | hleads
    · obtain ⟨found, hfound, hsame⟩ := List.mem_map.mp hfront
      have hmem : found ∈ tables := htables.mem_iff.mp (by simp [hfound])
      obtain rfl := eq_of_key_eq hnames hmem hchild hsame
      exact .inl hfound
    · have hback := refersAmong_of_leads hnames hchild hleads hparent rfl
      rcases Relation.reflTransGen_iff_eq_or_transGen.mp hback with rfl | hcycle
      · exact absurd rfl hne
      · exact .inr hcycle
  · have hall : (tables.map (·.referringTo all)).map (·.name) = all := by
      simp [all, Table.referringTo]
    rw [dropOrder, hall, List.length_map]
    exact dependencyOrder_congr hnext (fun name hname => referrers_referringTo hname)
      (List.Subset.refl all) _

/-- Two tables that refer to each other, one that refers to itself, and another one that refers to
that and to a table elsewhere. -/
def tangled : List Table :=
  [linkTable "a" "a", linkTable "b" "c", linkTable "c" "b",
    { linkTable "d" "a" with foreignKeys :=
      [⟨"f", ["up"], "a", ["id"], []⟩, ⟨"g", ["up"], "elsewhere", ["id"], []⟩] }]

/-- Each is dropped once, and the table that refers to the first one before that. -/
theorem dropOrder_perm_tangled :
    (tangled.map (·.name)).Nodup ∧ dropOrder tangled = ["d", "a", "c", "b"] ∧
    (dropOrder tangled).Perm (tangled.map (·.name)) ∧
    dropOrder (tangled.map (·.referringTo (tangled.map (·.name)))) = dropOrder tangled := by
  have hnames : (tangled.map (·.name)).Nodup := by decide +kernel
  obtain ⟨⟨ordered, hordered, hperm, -⟩, -, hwithin⟩ := dropOrder_perm hnames
  refine ⟨hnames, by decide +kernel, ?_, hwithin⟩
  rw [hordered]
  exact hperm.map _

end SchemaMigration
