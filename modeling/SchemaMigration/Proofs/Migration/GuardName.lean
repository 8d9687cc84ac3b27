import SchemaMigration.Proofs.Table.ListItems
import SchemaMigration.Proofs.Table.WellFormed
import SchemaMigration.Proofs.Migration.Guard

/-!
# Names of guards

The guards of a migration are called differently, as long as the texts that their names are
digests of have different digests.

## Main Definitions

* `TableComparison.digested` - the texts that names of guards are digests of
* `TableComparison.HasDistinctDigests` - no two of them have the same digest
* `TableComparison.guardNames_nodup` - no two guards are called the same
-/

namespace SchemaMigration

open Text

namespace TableComparison

/-- The texts that the names of guards are digests of. -/
def digested (c : TableComparison) : List Text :=
  c.unguardedColumns.map (fun column => c.name ++ "_" ++ column) ++ c.servedColumns.map (join ",")

/-- No two of these texts have the same digest. -/
def HasDistinctDigests (c : TableComparison) : Prop :=
  ∀ a ∈ c.digested, ∀ b ∈ c.digested, Digest.md5 a = Digest.md5 b → a = b

instance (c : TableComparison) : Decidable c.HasDistinctDigests :=
  inferInstanceAs (Decidable (∀ a ∈ c.digested, ∀ b ∈ c.digested,
    Digest.md5 a = Digest.md5 b → a = b))

variable {c : TableComparison}

/-! ## Columns of guards -/

/-- The columns that guards are for are distinct columns of the old table. -/
theorem unguardedColumns_sublist : List.Sublist c.unguardedColumns c.old.columnNames :=
  List.filter_sublist.map _

/-- The columns of every foreign key that stays were read off a list. -/
theorem exists_listItems_of_mem_servedColumns (hold : c.old.WellFormed)
    (hincoming : ∀ columns ∈ c.incoming, ∃ text, columns = namedColumns (listItems text))
    {columns : List Text} (h : columns ∈ c.servedColumns) :
    ∃ text, columns = namedColumns (listItems text) := by
  rcases List.mem_append.mp h with h | h
  · obtain ⟨key, hkey, rfl⟩ := List.mem_map.mp h
    obtain ⟨text, hparts⟩ := hold.foreignKey_parts key (List.mem_filter.mp hkey).1
    exact ⟨text, by rw [hparts]⟩
  · exact hincoming columns h

/-- No guard of a foreign key covers what is covered already, and no two cover the same. -/
theorem keyGuardsFor_columns (covered served : List (List Text)) :
    (∀ guard ∈ keyGuardsFor covered served, guard.columns ∉ covered) ∧
      ((keyGuardsFor covered served).map (·.columns)).Nodup := by
  induction served generalizing covered with
  | nil => simp [keyGuardsFor]
  | cons columns rest ih =>
      rw [keyGuardsFor]
      split
      · exact ih covered
      · rename_i hopen
        obtain ⟨hcovered, hnodup⟩ := ih (covered ++ [columns])
        constructor
        · intro guard hguard
          rcases List.mem_cons.mp hguard with rfl | hguard
          · intro hin
            refine hopen ?_
            rw [Bool.or_eq_true, List.any_eq_true]
            exact Or.inr ⟨columns, hin, List.isPrefixOf_iff_prefix.mpr (List.prefix_refl _)⟩
          · intro hin
            exact hcovered guard hguard (List.mem_append_left _ hin)
        · rw [List.map_cons, List.nodup_cons]
          refine ⟨?_, hnodup⟩
          intro hin
          obtain ⟨guard, hguard, hcolumns⟩ := List.mem_map.mp hin
          exact hcovered guard hguard (by simp [hcolumns])

/-! ## Names -/

/-- A guard for a column has a hashed name or that of the column. -/
theorem columnGuard_indexName (x : Text) :
    (c.columnGuard x).indexName = c.hashedName x ∨ (c.columnGuard x).indexName = x := by
  rcases c.columnGuard_cases x with h | ⟨-, -, h⟩ | ⟨-, -, h⟩
  · exact Or.inl (by rw [h]; rfl)
  · exact Or.inr (by rw [h]; rfl)
  · exact Or.inr (by rw [h]; rfl)

/-- Guards for columns and guards of foreign keys have names with different beginnings. -/
theorem hashedName_ne_keyGuardName (x : Text) (columns : List Text) :
    c.hashedName x ≠ keyGuardName columns := by
  have hstems : ∀ a b : Text, "mysqldiff_".toList ++ a ≠ "temp_".toList ++ b := by
    intro a b h
    cases congrArg List.head? h
  exact hstems _ _

/-- Different columns have different hashed names. -/
theorem hashedName_inj (hdigests : c.HasDistinctDigests) {x y : Text}
    (hx : x ∈ c.unguardedColumns) (hy : y ∈ c.unguardedColumns)
    (h : c.hashedName x = c.hashedName y) : x = y := by
  have hdigested : ∀ z ∈ c.unguardedColumns, c.name ++ "_" ++ z ∈ c.digested :=
    fun z hz => List.mem_append_left _ (List.mem_map_of_mem hz)
  have htext := hdigests _ (hdigested x hx) _ (hdigested y hy) (List.append_cancel_left h)
  exact List.append_cancel_left htext

/-- Guards of foreign keys that are called the same cover the same columns. -/
theorem keyGuardName_inj (hdigests : c.HasDistinctDigests) (hold : c.old.WellFormed)
    (hincoming : ∀ columns ∈ c.incoming, ∃ text, columns = namedColumns (listItems text))
    {columns columns' : List Text} (hmem : columns ∈ c.servedColumns)
    (hmem' : columns' ∈ c.servedColumns) (h : keyGuardName columns = keyGuardName columns') :
    columns = columns' := by
  have hdigested : ∀ served ∈ c.servedColumns, join "," served ∈ c.digested :=
    fun served hserved => List.mem_append_right _ (List.mem_map_of_mem hserved)
  have hjoin := hdigests _ (hdigested _ hmem) _ (hdigested _ hmem') (List.append_cancel_left h)
  obtain ⟨text, htext⟩ := exists_listItems_of_mem_servedColumns hold hincoming hmem
  obtain ⟨text', htext'⟩ := exists_listItems_of_mem_servedColumns hold hincoming hmem'
  exact join_injective htext htext' hjoin

/-- No column of the old table is called like a guard. -/
theorem ne_of_isGuardName (hnames : c.old.HasNoGuardName) {x name : Text}
    (hx : x ∈ c.unguardedColumns) (hname : IsGuardName name) : x ≠ name := by
  rintro rfl
  obtain ⟨column, hcolumn, rfl⟩ := List.mem_map.mp (unguardedColumns_sublist.subset hx)
  exact hnames.2 column hcolumn hname

/-- No two guards are called the same. -/
theorem guardNames_nodup (hdigests : c.HasDistinctDigests) (hold : c.old.WellFormed)
    (hnames : c.old.HasNoGuardName)
    (hincoming : ∀ columns ∈ c.incoming, ∃ text, columns = namedColumns (listItems text)) :
    (c.guards.map (·.indexName)).Nodup := by
  have hhashed : ∀ x, IsGuardName (c.hashedName x) := fun x => ⟨_, Or.inl rfl⟩
  have htemporary : ∀ columns, IsGuardName (keyGuardName columns) := fun columns => ⟨_, Or.inr rfl⟩
  rw [guards, List.map_append, List.nodup_append]
  refine ⟨?_, ?_, ?_⟩
  · rw [columnGuards, List.map_map]
    have hcolumns : (c.unguardedColumns.map id).Nodup := by
      rw [List.map_id]
      exact unguardedColumns_sublist.nodup hold.columnNames_nodup
    refine nodup_map_of_imp hcolumns ?_
    intro x hx y hy hname
    simp only [Function.comp_apply] at hname
    -- Names of both sorts are told apart by what is kept for guards.
    rcases c.columnGuard_indexName x with hxName | hxName <;>
      rcases c.columnGuard_indexName y with hyName | hyName <;> rw [hxName, hyName] at hname
    · exact hashedName_inj hdigests hx hy hname
    · exact absurd hname.symm (ne_of_isGuardName hnames hy (hhashed x))
    · exact absurd hname (ne_of_isGuardName hnames hx (hhashed y))
    · exact hname
  · refine nodup_map_of_imp (keyGuardsFor_columns _ _).2 ?_
    intro guard hguard guard' hguard' hname
    obtain ⟨columns, hcolumns, -, rfl⟩ := mem_keyGuardsFor hguard
    obtain ⟨columns', hcolumns', -, rfl⟩ := mem_keyGuardsFor hguard'
    simp only [Guard.indexName, Option.getD_some] at hname
    exact keyGuardName_inj hdigests hold hincoming hcolumns hcolumns' hname
  · intro name hname name' hname' heq
    obtain ⟨guard, hguard, rfl⟩ := List.mem_map.mp hname
    obtain ⟨x, hx, rfl⟩ := List.mem_map.mp hguard
    obtain ⟨guard', hguard', rfl⟩ := List.mem_map.mp hname'
    obtain ⟨columns, -, -, rfl⟩ := mem_keyGuardsFor hguard'
    have heq : (c.columnGuard x).indexName = keyGuardName columns := heq
    rcases c.columnGuard_indexName x with hxName | hxName <;> rw [hxName] at heq
    · exact hashedName_ne_keyGuardName x columns heq
    · exact ne_of_isGuardName hnames hx (htemporary columns) heq

end TableComparison

end SchemaMigration
