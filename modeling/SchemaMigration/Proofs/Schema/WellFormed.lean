import SchemaMigration.Proofs.Schema.Step
import SchemaMigration.Proofs.Table.WellFormed

/-!
# Well-formed schemas

A dump is read as if it were run, and whatever it defines, drops or replaces, no two objects of
a sort have the same name at any moment.

## Main Definitions

* `Schema.WellFormed` - distinct names of tables, views and routines, and well-formed tables
* `Schema.wellFormed_of_parse` - a schema that was read is well formed
* `Schema.WellFormed.table?_eq_some` - a table is found by its name
-/

namespace SchemaMigration

namespace Schema

/-- What reading a dump guarantees of a schema. -/
structure WellFormed (schema : Schema) : Prop where
  tableNames_nodup : (schema.tables.map (·.name)).Nodup
  viewNames_nodup : (schema.views.map (·.name)).Nodup
  routineKeys_nodup : (schema.routines.map (·.key)).Nodup
  tables_wellFormed : ∀ table ∈ schema.tables, table.WellFormed

theorem wellFormed_empty (source : Text) : (empty source).WellFormed := by
  constructor <;> simp [empty]

/-- An object of a schema may go. -/
theorem WellFormed.dropObject {schema : Schema} (h : schema.WellFormed) (kind : ObjectKind)
    (name : Text) : (schema.dropObject kind name).WellFormed := by
  cases kind with
  | table =>
      exact { h with
        tableNames_nodup := nodup_filter _ h.tableNames_nodup
        tables_wellFormed := by
          intro table htable
          exact h.tables_wellFormed table (List.mem_filter.mp htable).1 }
  | view => exact { h with viewNames_nodup := nodup_filter _ h.viewNames_nodup }
  | routine kind => exact { h with routineKeys_nodup := nodup_filter _ h.routineKeys_nodup }

/-- Every definition that is taken leaves the schema well formed. -/
theorem WellFormed.takes {schema next : Schema} {definition : Definition} (h : schema.WellFormed)
    (htakes : schema.Takes definition next) : next.WellFormed := by
  cases htakes with
  | drop _ _ hnext =>
      subst hnext
      exact h.dropObject _ _
  | dropNothing _ _ hnext | alter _ hnext =>
      subst hnext
      exact h
  | table _ hparse hfree _ hnext =>
      subst hnext
      exact { h with
        tableNames_nodup := nodup_concat h.tableNames_nodup (find?_eq_none_iff.mp hfree)
        tables_wellFormed :=
          forall_mem_concat h.tables_wellFormed (Table.wellFormed_of_parse hparse) }
  | @view view _ _ hfree hnext =>
      subst hnext
      exact { h.dropObject .table view.name with
        viewNames_nodup := nodup_concat h.viewNames_nodup (find?_eq_none_iff.mp hfree) }
  | routine _ _ hfree hnext =>
      subst hnext
      exact { h with
        routineKeys_nodup := nodup_concat h.routineKeys_nodup (find?_eq_none_iff.mp hfree) }

/-- A schema that was read is well formed. -/
theorem wellFormed_of_parse {keepQuotes : Bool} {source raw : Text} {schema : Schema}
    (h : parse keepQuotes source raw = .ok schema) : schema.WellFormed :=
  steps_induction (fun _ _ _ hschema => hschema.takes) (wellFormed_empty source) h

/-- A table of a well-formed schema is found by its name. -/
theorem WellFormed.table?_eq_some {schema : Schema} (h : schema.WellFormed)
    {table : Table} (htable : table ∈ schema.tables) :
    schema.table? table.name = some table :=
  find?_eq_some_of_mem h.tableNames_nodup htable

end Schema

end SchemaMigration
