import SchemaMigration.Proofs.Schema.Concatenation
import SchemaMigration.Proofs.Schema.WellFormed

/-!
# What a dump leaves behind

Tables, views and routines are kept by the same rule: a definition that creates an object adds it
unless its name is taken, and definitions discard objects by their names. So what is there in the
end is what some definition created and no later one discarded. The categories differ in no more
than what creates and what discards their objects: a `DROP` does, and for tables also a view of
their name.

## Main Definitions

* `Schema.Takes.objects` - what a definition does to the objects of each sort
* `ObjectCategory` - where a schema keeps some objects, and what creates and discards them
* `ObjectCategory.tables`, `ObjectCategory.views`, `ObjectCategory.routines` - the three categories
* `ObjectCategory.objects_steps` - what is there behind some definitions
* `ObjectCategory.Remains` - what is created and not discarded later
* `ObjectCategory.lastCreated?` - what is created last of a key
* `ObjectCategory.Leaves` - what is there is what remains, each under its own key
* `Schema.ViewsApart` - no name is both a table and a view
* `Schema.leaves_of_parse` - a schema that was read is what the definitions of the dump leave behind
-/

namespace SchemaMigration

namespace Definition

/-- The table that a definition creates. -/
def createdTable? (definition : Definition) : Option Table :=
  match definition.subject with
  | some (.create, .table) => (Table.parse definition.text).toOption
  | _ => none

/-- The view that a definition creates. -/
def createdView? (definition : Definition) : Option View :=
  match definition.subject with
  | some (.create, .view) => (View.parse definition.text).toOption
  | _ => none

/-- The routine that a definition creates. -/
def createdRoutine? (definition : Definition) : Option Routine :=
  match definition.subject with
  | some (.create, .routine _) => (Routine.parse definition.text).toOption
  | _ => none

theorem createdTable?_eq_some {definition : Definition} {table : Table} :
    definition.createdTable? = some table ↔
      definition.subject = some (.create, .table) ∧ Table.parse definition.text = .ok table := by
  rw [createdTable?]
  split
  · rename_i hsubject
    cases Table.parse definition.text <;> simp [Except.toOption, hsubject]
  · rename_i hother
    simpa using fun hsubject => (hother hsubject).elim

theorem createdView?_eq_some {definition : Definition} {view : View} :
    definition.createdView? = some view ↔
      definition.subject = some (.create, .view) ∧ View.parse definition.text = .ok view := by
  rw [createdView?]
  split
  · rename_i hsubject
    cases View.parse definition.text <;> simp [Except.toOption, hsubject]
  · rename_i hother
    simpa using fun hsubject => (hother hsubject).elim

theorem createdRoutine?_eq_some {definition : Definition} {routine : Routine} :
    definition.createdRoutine? = some routine ↔
      (∃ kind, definition.subject = some (.create, .routine kind)) ∧
        Routine.parse definition.text = .ok routine := by
  rw [createdRoutine?]
  split
  · rename_i hsubject
    cases Routine.parse definition.text <;> simp [Except.toOption, hsubject]
  · rename_i hother
    simpa using fun kind hsubject => (hother kind hsubject).elim

/-- Whether a definition drops the object of a kind and name. -/
def drops (definition : Definition) (kind : ObjectKind) (name : Text) : Bool :=
  definition.subject = some (.drop, kind) ∧ definition.droppedName = some name

/-- Whether a definition discards the table of a name: it drops it, or creates a view in its
place. -/
def discardsTable (definition : Definition) (name : Text) : Bool :=
  definition.drops .table name || definition.createdView?.any (name == ·.name)

/-- A definition that drops an object drops no other. -/
theorem drops_of_drop {definition : Definition} {kind : ObjectKind} {name : Text}
    (hsubject : definition.subject = some (.drop, kind))
    (hname : definition.droppedName = some name) (other : ObjectKind) (k : Text) :
    definition.drops other k = decide (other = kind ∧ k = name) := by
  simp [drops, hsubject, hname, eq_comm]

end Definition

namespace Schema

open Definition

/-- Each list of a schema keeps what a definition does not discard, and behind that stands what the
definition creates. -/
theorem Takes.objects {schema next : Schema} {definition : Definition}
    (h : schema.Takes definition next) :
    next.tables = schema.tables.filter (fun table => ! definition.discardsTable table.name)
        ++ definition.createdTable?.toList ∧
      next.views = schema.views.filter (fun view => ! definition.drops .view view.name)
        ++ definition.createdView?.toList ∧
      next.routines = schema.routines.filter
          (fun routine => ! definition.drops (.routine routine.key.1) routine.key.2)
        ++ definition.createdRoutine?.toList := by
  cases h with
  | @drop kind name hsubject hname hnext =>
      subst hnext
      cases kind <;>
        simp [dropObject, eraseTable, eraseView, eraseRoutine, discardsTable, createdTable?,
          createdView?, createdRoutine?, drops_of_drop hsubject hname, hsubject, bne,
          beq_eq_decide, Prod.ext_iff]
  | dropNothing hsubject hname hnext =>
      subst hnext
      simp [discardsTable, createdTable?, createdView?, createdRoutine?, drops, hsubject, hname]
  | alter hsubject hnext =>
      subst hnext
      simp [discardsTable, createdTable?, createdView?, createdRoutine?, drops, hsubject]
  | table hsubject hparse _ _ hnext =>
      subst hnext
      simp [discardsTable, createdTable?, createdView?, createdRoutine?, drops, hsubject, hparse,
        Except.toOption]
  | view hsubject hparse _ hnext =>
      subst hnext
      simp [discardsTable, createdTable?, createdView?, createdRoutine?, drops, hsubject, hparse,
        Except.toOption, eraseTable, bne]
  | routine hsubject hparse _ hnext =>
      subst hnext
      simp [discardsTable, createdTable?, createdView?, createdRoutine?, drops, hsubject, hparse,
        Except.toOption]

end Schema

/-- Of some items, one is such that all behind it are of a sort: the first one is, or one of the
rest. -/
theorem exists_split_cons {α : Type} {items : List α} {first : α} {P Q : α → Prop} :
    (∃ front item back, first :: items = front ++ item :: back ∧ P item ∧ ∀ later ∈ back, Q later) ↔
      (P first ∧ ∀ later ∈ items, Q later) ∨
      ∃ front item back, items = front ++ item :: back ∧ P item ∧ ∀ later ∈ back, Q later := by
  constructor
  · rintro ⟨front, item, back, hsplit, hitem, hback⟩
    cases front with
    | nil =>
        obtain ⟨rfl, rfl⟩ := List.cons.inj hsplit
        exact .inl ⟨hitem, hback⟩
    | cons other front => exact .inr ⟨front, item, back, (List.cons.inj hsplit).2, hitem, hback⟩
  · rintro (⟨hfirst, hitems⟩ | ⟨front, item, back, rfl, hitem, hback⟩)
    · exact ⟨[], first, items, rfl, hfirst, hitems⟩
    · exact ⟨first :: front, item, back, rfl, hitem, hback⟩

/-- A category of objects of a schema. Definitions create and discard objects by their keys, and
none is created under a key that is taken. -/
structure ObjectCategory (α β : Type) where
  objects : Schema → List α
  key : α → β
  creates : Definition → Prop
  created? : Definition → Option α
  discards : Definition → β → Bool
  objects_empty : ∀ source, objects (.empty source) = []
  objects_step : ∀ {schema next : Schema} {definition : Definition},
    schema.step definition = .ok next → objects next
      = (objects schema).filter (fun a => ! discards definition (key a))
        ++ (created? definition).toList
  isSome_created? : ∀ {schema next : Schema} {definition : Definition},
    schema.step definition = .ok next → creates definition → (created? definition).isSome
  key_notMem : ∀ {schema next : Schema} {definition : Definition} {a : α},
    schema.step definition = .ok next → created? definition = some a →
      key a ∉ (objects schema).map key

namespace ObjectCategory

open Definition

/-- Tables are dropped, and views take their places. -/
def tables : ObjectCategory Table Text where
  objects := Schema.tables
  key := Table.name
  creates definition := definition.subject = some (.create, .table)
  created? := createdTable?
  discards := discardsTable
  objects_empty _ := rfl
  objects_step h := (Schema.step_eq_ok.mp h).objects.1
  isSome_created? h hcreates := by
    cases Schema.step_eq_ok.mp h with
    | table hsubject hparse => simp [createdTable?, hsubject, hparse, Except.toOption]
    | drop hsubject | dropNothing hsubject | alter hsubject | view hsubject | routine hsubject =>
        simp [hsubject] at hcreates
  key_notMem h hcreated := by
    cases Schema.step_eq_ok.mp h with
    | table hsubject hparse hfree hview hnext =>
        simp only [createdTable?, hsubject, hparse, Except.toOption, Option.some.injEq] at hcreated
        subst hcreated
        simpa [Schema.table?] using hfree
    | drop hsubject | dropNothing hsubject | alter hsubject | view hsubject | routine hsubject =>
        simp [createdTable?, hsubject] at hcreated

/-- Views are dropped. -/
def views : ObjectCategory View Text where
  objects := Schema.views
  key := View.name
  creates definition := definition.subject = some (.create, .view)
  created? := createdView?
  discards definition name := definition.drops .view name
  objects_empty _ := rfl
  objects_step h := (Schema.step_eq_ok.mp h).objects.2.1
  isSome_created? h hcreates := by
    cases Schema.step_eq_ok.mp h with
    | view hsubject hparse => simp [createdView?, hsubject, hparse, Except.toOption]
    | drop hsubject | dropNothing hsubject | alter hsubject | table hsubject | routine hsubject =>
        simp [hsubject] at hcreates
  key_notMem h hcreated := by
    cases Schema.step_eq_ok.mp h with
    | view hsubject hparse hfree hnext =>
        simp only [createdView?, hsubject, hparse, Except.toOption, Option.some.injEq] at hcreated
        subst hcreated
        simpa [Schema.view?] using hfree
    | drop hsubject | dropNothing hsubject | alter hsubject | table hsubject | routine hsubject =>
        simp [createdView?, hsubject] at hcreated

/-- Routines are dropped by their kinds and names. -/
def routines : ObjectCategory Routine (RoutineKind × Text) where
  objects := Schema.routines
  key := Routine.key
  creates definition := ∃ kind, definition.subject = some (.create, .routine kind)
  created? := createdRoutine?
  discards definition key := definition.drops (.routine key.1) key.2
  objects_empty _ := rfl
  objects_step h := (Schema.step_eq_ok.mp h).objects.2.2
  isSome_created? h hcreates := by
    obtain ⟨kind, hcreates⟩ := hcreates
    cases Schema.step_eq_ok.mp h with
    | routine hsubject hparse => simp [createdRoutine?, hsubject, hparse, Except.toOption]
    | drop hsubject | dropNothing hsubject | alter hsubject | table hsubject | view hsubject =>
        simp [hsubject] at hcreates
  key_notMem h hcreated := by
    cases Schema.step_eq_ok.mp h with
    | routine hsubject hparse hfree hnext =>
        simp only [createdRoutine?, hsubject, hparse, Except.toOption, Option.some.injEq]
          at hcreated
        subst hcreated
        simpa [Schema.routine?] using hfree
    | drop hsubject | dropNothing hsubject | alter hsubject | table hsubject | view hsubject =>
        simp [createdRoutine?, hsubject] at hcreated

section Run

variable {α β : Type} (category : ObjectCategory α β) {schema last : Schema}
  {definitions : List Definition}

/-- The objects that definitions create and do not discard again, in order. -/
def remaining : List Definition → List α
  | [] => []
  | definition :: rest =>
    (category.created? definition).toList.filter
        (fun a => ! rest.any (category.discards · (category.key a)))
      ++ remaining rest

/-- Behind some definitions, there are the objects that they do not discard, and those that they
create and do not discard again. -/
theorem objects_steps (h : schema.steps definitions = .ok last) :
    category.objects last = (category.objects schema).filter
        (fun a => ! definitions.any (category.discards · (category.key a)))
      ++ category.remaining definitions := by
  induction definitions generalizing schema with
  | nil =>
      obtain rfl := Except.ok.inj h
      simp [remaining]
  | cons definition rest ih =>
      obtain ⟨next, hstep, hrest⟩ := bind_eq_ok h
      rw [ih hrest, category.objects_step hstep, List.filter_append, List.filter_filter, remaining,
        List.append_assoc]
      simp [Bool.and_comm]

/-- An object that some definition creates and no later one discards. -/
def Remains (definitions : List Definition) (a : α) : Prop :=
  ∃ front definition back, definitions = front ++ definition :: back ∧
    category.created? definition = some a ∧
      ∀ later ∈ back, category.discards later (category.key a) = false

/-- The object that the last definition creates that creates one of a key. -/
def lastCreated? [BEq β] (definitions : List Definition) (k : β) : Option α :=
  ((definitions.filterMap category.created?).filter (category.key · == k)).getLast?

variable {category}

theorem remains_cons {definition : Definition} {a : α} :
    category.Remains (definition :: definitions) a ↔
      (category.created? definition = some a ∧
        ∀ later ∈ definitions, category.discards later (category.key a) = false) ∨
      category.Remains definitions a :=
  exists_split_cons

theorem mem_remaining {a : α} : a ∈ category.remaining definitions ↔
    category.Remains definitions a := by
  induction definitions with
  | nil => simp [remaining, Remains]
  | cons definition rest ih =>
      rw [remaining, List.mem_append, ih, remains_cons]
      simp [Option.mem_toList]

/-- What is there and what is not discarded stays. -/
theorem mem_objects_steps (h : schema.steps definitions = .ok last) {a : α} :
    a ∈ category.objects last ↔ (a ∈ category.objects schema ∧
        ∀ definition ∈ definitions, category.discards definition (category.key a) = false) ∨
      category.Remains definitions a := by
  rw [category.objects_steps h, List.mem_append, List.mem_filter, mem_remaining]
  simp

/-- Nothing is created under the key of an object that stays. -/
theorem key_ne_of_stays (h : schema.steps definitions = .ok last) {a : α}
    (ha : a ∈ category.objects schema)
    (hstays : ∀ definition ∈ definitions, category.discards definition (category.key a) = false) :
    ∀ b ∈ definitions.filterMap category.created?, category.key b ≠ category.key a := by
  induction definitions generalizing schema with
  | nil => simp
  | cons definition rest ih =>
      obtain ⟨next, hstep, hrest⟩ := bind_eq_ok h
      rw [List.forall_mem_cons] at hstays
      -- the object is there when each of the definitions comes, so its key is taken
      have hnext : a ∈ category.objects next := by
        rw [category.objects_step hstep, List.mem_append, List.mem_filter]
        exact .inl ⟨ha, by simp [hstays.1]⟩
      intro b hb
      rw [List.filterMap_cons] at hb
      cases hcreated : category.created? definition with
      | none =>
          rw [hcreated] at hb
          exact ih hrest hnext hstays.2 b hb
      | some c =>
          rw [hcreated, List.mem_cons] at hb
          rcases hb with rfl | hb
          · intro hkey
            exact category.key_notMem hstep hcreated (hkey ▸ List.mem_map_of_mem ha)
          · exact ih hrest hnext hstays.2 b hb

/-- What remains is what was created last under its key. -/
theorem Remains.lastCreated?_eq [BEq β] [LawfulBEq β] {source : Text} {a : α}
    (h : (Schema.empty source).steps definitions = .ok last)
    (hremains : category.Remains definitions a) :
    category.lastCreated? definitions (category.key a) = some a := by
  obtain ⟨front, definition, back, rfl, hcreated, hstays⟩ := hremains
  rw [Schema.steps_append] at h
  obtain ⟨before, -, hrest⟩ := bind_eq_ok h
  obtain ⟨next, hstep, hback⟩ := bind_eq_ok hrest
  have hnext : a ∈ category.objects next := by
    rw [category.objects_step hstep, hcreated]
    simp
  -- from its definition on the object stays, and so nothing else is created under its key
  have hlater := key_ne_of_stays hback hnext hstays
  have hnone :
      (back.filterMap category.created?).filter (category.key · == category.key a) = [] := by
    rw [List.filter_eq_nil_iff]
    intro b hb
    simpa using hlater b hb
  rw [lastCreated?, List.filterMap_append, List.filterMap_cons, hcreated, List.filter_append,
    List.filter_cons_of_pos (by simp), hnone, List.getLast?_concat]

/-- Keys of a category are distinct behind any definitions. -/
theorem nodup_steps (h : schema.steps definitions = .ok last)
    (hnodup : ((category.objects schema).map category.key).Nodup) :
    ((category.objects last).map category.key).Nodup := by
  refine Schema.steps_induction (P := fun schema =>
    ((category.objects schema).map category.key).Nodup) ?_ hnodup h
  intro schema definition next hnodup htakes
  have hstep := Schema.step_eq_ok.mpr htakes
  rw [category.objects_step hstep]
  cases hcreated : category.created? definition with
  | none => simpa using nodup_filter _ hnodup
  | some a =>
      refine nodup_concat (nodup_filter _ hnodup) ?_
      intro hkey
      refine category.key_notMem hstep hcreated ?_
      exact (List.filter_sublist.map category.key).subset hkey

/-- Definitions that are taken create what they say. -/
theorem isSome_created?_of_steps (h : schema.steps definitions = .ok last)
    {definition : Definition} (hmem : definition ∈ definitions)
    (hcreates : category.creates definition) : (category.created? definition).isSome := by
  induction definitions generalizing schema with
  | nil => cases hmem
  | cons first rest ih =>
      obtain ⟨next, hstep, hrest⟩ := bind_eq_ok h
      rcases List.mem_cons.mp hmem with rfl | hmem
      · exact category.isSome_created? hstep hcreates
      · exact ih hrest hmem

variable (category) in
/-- What some definitions leave behind of a category, and what a search for keys finds. -/
structure Leaves [BEq β] (definitions : List Definition) (objects : List α)
    (find? : β → Option α) : Prop where
  isSome_created? : ∀ definition ∈ definitions,
    category.creates definition → (category.created? definition).isSome
  keys_nodup : (objects.map category.key).Nodup
  mem_iff : ∀ a, a ∈ objects ↔ category.Remains definitions a
  find?_eq_some_iff : ∀ k a, find? k = some a ↔ category.key a = k ∧ category.Remains definitions a
  find?_eq_lastCreated? : ∀ k a, find? k = some a → category.lastCreated? definitions k = some a

/-- Definitions leave behind what the schema behind them holds. -/
theorem leaves_of_steps [BEq β] [LawfulBEq β] {source : Text}
    (h : (Schema.empty source).steps definitions = .ok last) :
    category.Leaves definitions (category.objects last)
      (fun k => (category.objects last).find? (category.key · == k)) := by
  have hnodup : ((category.objects last).map category.key).Nodup :=
    nodup_steps h (by simp [category.objects_empty])
  have hmem (a : α) : a ∈ category.objects last ↔ category.Remains definitions a := by
    rw [mem_objects_steps h, category.objects_empty]
    simp
  have hfind (k : β) (a : α) : (category.objects last).find? (category.key · == k) = some a ↔
      category.key a = k ∧ category.Remains definitions a := by
    constructor
    · intro hfound
      obtain ⟨ha, hkey⟩ := mem_of_find?_eq_some hfound
      exact ⟨hkey, (hmem a).mp ha⟩
    · rintro ⟨rfl, hremains⟩
      exact find?_eq_some_of_mem hnodup ((hmem a).mpr hremains)
  refine ⟨fun _ => isSome_created?_of_steps h, hnodup, hmem, hfind, ?_⟩
  intro k a hfound
  obtain ⟨rfl, hremains⟩ := (hfind k a).mp hfound
  exact hremains.lastCreated?_eq h

end Run

end ObjectCategory

namespace Schema

/-- No name is both a table and a view. -/
def ViewsApart (schema : Schema) : Prop :=
  ∀ table ∈ schema.tables, ∀ view ∈ schema.views, table.name ≠ view.name

theorem ViewsApart.takes {schema next : Schema} {definition : Definition} (h : schema.ViewsApart)
    (htakes : schema.Takes definition next) : next.ViewsApart := by
  cases htakes with
  | @drop kind name _ _ hnext =>
      subst hnext
      cases kind with
      | table => exact fun table htable => h table (List.mem_filter.mp htable).1
      | view =>
          exact fun table htable view hview => h table htable view (List.mem_filter.mp hview).1
      | routine => exact h
  | dropNothing _ _ hnext | alter _ hnext =>
      subst hnext
      exact h
  | table _ _ _ hview hnext =>
      subst hnext
      refine forall_mem_concat h fun view hmem hname => ?_
      exact find?_eq_none_iff.mp hview (hname ▸ List.mem_map_of_mem hmem)
  | view _ _ _ hnext =>
      subst hnext
      intro table htable
      obtain ⟨htable, hne⟩ := List.mem_filter.mp htable
      exact forall_mem_concat (h table htable) (by simpa using hne)
  | routine _ _ _ hnext =>
      subst hnext
      exact h

/-- A schema that was read is what the definitions of the dump leave behind: under each name or key
there is the object that was created last, if nothing discards it later, and no name is both a table
and a view. -/
theorem leaves_of_parse {keepQuotes : Bool} {source raw : Text} {schema : Schema}
    (h : parse keepQuotes source raw = .ok schema) :
    ObjectCategory.tables.Leaves (Dump.definitions keepQuotes raw) schema.tables schema.table? ∧
    ObjectCategory.views.Leaves (Dump.definitions keepQuotes raw) schema.views schema.view? ∧
    ObjectCategory.routines.Leaves (Dump.definitions keepQuotes raw) schema.routines
      schema.routine? ∧
    ∀ name, schema.table? name = none ∨ schema.view? name = none := by
  refine ⟨ObjectCategory.leaves_of_steps h, ObjectCategory.leaves_of_steps h,
    ObjectCategory.leaves_of_steps h, ?_⟩
  have happart : schema.ViewsApart :=
    steps_induction (fun _ _ _ hapart => hapart.takes) (fun _ htable => by cases htable) h
  intro name
  by_contra hboth
  rw [not_or, ← ne_eq, ← ne_eq, Option.ne_none_iff_exists', Option.ne_none_iff_exists'] at hboth
  obtain ⟨⟨table, htable⟩, view, hview⟩ := hboth
  obtain ⟨htables, hkey⟩ := mem_of_find?_eq_some htable
  obtain ⟨hviews, hname⟩ := mem_of_find?_eq_some hview
  exact happart table htables view hviews (hkey.trans hname.symm)

/-- A dump with a table that gives way to another one of its name, a table in whose place a view
comes, and a procedure that gives way to a function. -/
def replacingDump : Text :=
  "CREATE TABLE v (\n  a int\n);\nCREATE TABLE t (\n  a int\n);\nDROP TABLE t;\n" ++
  "CREATE TABLE t (\n  b int\n);\nCREATE VIEW v AS SELECT 1;\n" ++
  "CREATE PROCEDURE p() SELECT 1;\nDROP PROCEDURE p;\nCREATE FUNCTION p() RETURNS int RETURN 2;"

/-- It leaves the second table, the view and the function. -/
theorem leaves_of_parse_replacing : ∃ schema,
    parse false [] replacingDump = .ok schema ∧
    schema.tables.map (·.name) = [['t']] ∧ schema.tables.flatMap (·.columns) = [⟨"b", "int", 0⟩] ∧
    schema.views.map (·.name) = [['v']] ∧
    schema.routines.map (·.kind) = [.function] ∧ schema.routines.map (·.name) = [['p']] ∧
    ObjectCategory.tables.Leaves (Dump.definitions false replacingDump) schema.tables
      schema.table? ∧
    ObjectCategory.views.Leaves (Dump.definitions false replacingDump) schema.views schema.view? ∧
    ObjectCategory.routines.Leaves (Dump.definitions false replacingDump) schema.routines
      schema.routine? ∧
    ∀ name, schema.table? name = none ∨ schema.view? name = none := by
  have hobjects : (parse false [] replacingDump).toOption.any fun schema =>
      schema.tables.map (·.name) = [['t']] ∧
      schema.tables.flatMap (·.columns) = [⟨"b", "int", 0⟩] ∧
      schema.views.map (·.name) = [['v']] ∧
      schema.routines.map (·.kind) = [.function] ∧ schema.routines.map (·.name) = [['p']] := by
    decide +kernel
  cases hparse : parse false [] replacingDump with
  | error error =>
      rw [hparse] at hobjects
      cases hobjects
  | ok schema =>
      rw [hparse] at hobjects
      obtain ⟨htables, hcolumns, hviews, hkinds, hnames⟩ := of_decide_eq_true hobjects
      exact ⟨schema, rfl, htables, hcolumns, hviews, hkinds, hnames, leaves_of_parse hparse⟩

end Schema

end SchemaMigration
