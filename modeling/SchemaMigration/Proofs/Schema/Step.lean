import SchemaMigration.Proofs.Table.Draft
import SchemaMigration.Schema.Parser

/-!
# What a definition does to a schema

A dump is read definition by definition from one schema to the next. All that one definition can do
is told once, and what holds behind a whole dump follows from it.

## Main Definitions

* `Schema.Takes` - all that a definition can do to a schema
* `Schema.step_eq_ok` - a step does just that
* `Schema.steps_induction` - what every step preserves holds behind all definitions
-/

namespace SchemaMigration

namespace Schema

/-- All that a definition can do to a schema. -/
inductive Takes (schema : Schema) (definition : Definition) (next : Schema) : Prop
  | drop {kind : ObjectKind} {name : Text} (hsubject : definition.subject = some (.drop, kind))
      (hname : definition.droppedName = some name) (hnext : next = schema.dropObject kind name)
  | dropNothing {kind : ObjectKind} (hsubject : definition.subject = some (.drop, kind))
      (hname : definition.droppedName = none) (hnext : next = schema)
  | alter {kind : ObjectKind} (hsubject : definition.subject = some (.alter, kind))
      (hnext : next = schema)
  | table {table : Table} (hsubject : definition.subject = some (.create, .table))
      (hparse : Table.parse definition.text = .ok table)
      (hfree : schema.table? table.name = none) (hview : schema.view? table.name = none)
      (hnext : next = { schema with tables := schema.tables ++ [table] })
  | view {view : View} (hsubject : definition.subject = some (.create, .view))
      (hparse : View.parse definition.text = .ok view) (hfree : schema.view? view.name = none)
      (hnext : next = { schema.eraseTable view.name with views := schema.views ++ [view] })
  | routine {kind : RoutineKind} {routine : Routine}
      (hsubject : definition.subject = some (.create, .routine kind))
      (hparse : Routine.parse definition.text = .ok routine)
      (hfree : schema.routine? routine.key = none)
      (hnext : next = { schema with routines := schema.routines ++ [routine] })

/-- A step does what the definition can do, or is refused. -/
theorem step_eq_ok {schema next : Schema} {definition : Definition} :
    schema.step definition = .ok next ↔ schema.Takes definition next := by
  constructor
  · intro h
    rw [step] at h
    split at h
    · cases h
    · rename_i kind hsubject
      split at h
      · rename_i hname
        exact .dropNothing hsubject hname (Except.ok.inj h).symm
      · rename_i name hname
        exact .drop hsubject hname (Except.ok.inj h).symm
    · rename_i hsubject
      exact .alter hsubject (Except.ok.inj h).symm
    · rename_i hsubject
      split at h
      · cases h
      · rename_i table hparse
        rw [addTable] at h
        split at h
        · cases h
        · rename_i hfree
          simp only [Bool.or_eq_true, not_or, Option.not_isSome_iff_eq_none] at hfree
          exact .table hsubject hparse hfree.1 hfree.2 (Except.ok.inj h).symm
    · rename_i hsubject
      split at h
      · cases h
      · rename_i view hparse
        rw [addView] at h
        split at h
        · cases h
        · rename_i hfree
          exact .view hsubject hparse (by simpa using hfree) (Except.ok.inj h).symm
    · rename_i hsubject
      split at h
      · cases h
      · rename_i routine hparse
        rw [addRoutine] at h
        split at h
        · cases h
        · rename_i hfree
          exact .routine hsubject hparse (by simpa using hfree) (Except.ok.inj h).symm
  · intro h
    cases h with
    | drop hsubject hname hnext | dropNothing hsubject hname hnext =>
        simp only [step, hsubject, hname, hnext]
    | alter hsubject hnext => simp only [step, hsubject, hnext]
    | table hsubject hparse hfree hview hnext =>
        simp [step, hsubject, hparse, addTable, hfree, hview, hnext]
    | view hsubject hparse hfree hnext =>
        simp [step, hsubject, hparse, addView, hfree, hnext]
    | routine hsubject hparse hfree hnext =>
        simp [step, hsubject, hparse, addRoutine, hfree, hnext]

/-- The definitions are taken one behind the other. -/
theorem steps_cons_eq_ok {schema last : Schema} {definition : Definition}
    {rest : List Definition} : schema.steps (definition :: rest) = .ok last ↔
      ∃ next, schema.Takes definition next ∧ next.steps rest = .ok last := by
  constructor
  · intro h
    obtain ⟨next, hstep, hrest⟩ := bind_eq_ok h
    exact ⟨next, step_eq_ok.mp hstep, hrest⟩
  · rintro ⟨next, htakes, hrest⟩
    exact (bind_of_eq_ok (step_eq_ok.mpr htakes) _).trans hrest

/-- What every step preserves holds behind all definitions. -/
theorem steps_induction {P : Schema → Prop} {schema last : Schema} {definitions : List Definition}
    (htakes : ∀ schema definition next, P schema → schema.Takes definition next → P next)
    (hschema : P schema) (h : schema.steps definitions = .ok last) : P last := by
  induction definitions generalizing schema with
  | nil =>
      obtain rfl := Except.ok.inj h
      exact hschema
  | cons definition rest ih =>
      obtain ⟨next, hnext, hrest⟩ := steps_cons_eq_ok.mp h
      exact ih (htakes schema definition next hschema hnext) hrest

/-- The schema behind two lists of definitions. -/
theorem steps_append (schema : Schema) (first second : List Definition) :
    schema.steps (first ++ second) = (schema.steps first).bind fun next => next.steps second := by
  induction first generalizing schema with
  | nil => rfl
  | cons definition first ih =>
      rw [List.cons_append, steps, steps]
      cases schema.step definition with
      | error error => rfl
      | ok next => exact ih next

end Schema

end SchemaMigration
