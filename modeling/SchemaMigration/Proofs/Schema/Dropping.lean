import SchemaMigration.Proofs.Dump.DropStatement
import SchemaMigration.Proofs.Schema.Remainder

/-!
# What a drop discards

A statement that drops a list of objects discards the first of them, and none at all if they are
temporary. Any other listed object that was there before stays, until a later definition discards
it; meanwhile another definition of its name is refused as repeated.

## Main Definitions

* `Definition.creates`, `Definition.discards` - what a definition does to an object by its name
* `CreatesAndKeeps` - definitions that create an object and do not discard it again
* `Schema.hasObject_steps` - the objects behind some definitions, by their names
* `Schema.step_eq_repeated_iff` - when a definition is refused as repeated
* `Schema.hasObject_of_dropsListed` - the listed objects behind a statement that drops them
-/

namespace SchemaMigration

open Text

namespace Definition

/-- A definition that creates the object of a kind and name. -/
def creates (definition : Definition) (kind : ObjectKind) (name : Text) : Prop :=
  match kind with
  | .table => ∃ table, definition.createdTable? = some table ∧ table.name = name
  | .view => ∃ view, definition.createdView? = some view ∧ view.name = name
  | .routine kind =>
    ∃ routine, definition.createdRoutine? = some routine ∧ routine.key = (kind, name)

/-- Whether a definition discards the object of a kind and name. -/
def discards (definition : Definition) (kind : ObjectKind) (name : Text) : Bool :=
  match kind with
  | .table => definition.discardsTable name
  | kind => definition.drops kind name

theorem not_creates_of_drop {definition : Definition} {kind other : ObjectKind} {name : Text}
    (hsubject : definition.subject = some (.drop, kind)) : ¬ definition.creates other name := by
  cases other <;>
    simp [creates, createdTable?, createdView?, createdRoutine?, hsubject]

/-- A drop discards what it names. -/
theorem discards_of_drop {definition : Definition} {kind : ObjectKind} {name : Text}
    (hsubject : definition.subject = some (.drop, kind)) :
    definition.discards kind name = decide (definition.droppedName = some name) := by
  cases kind <;> simp [discards, discardsTable, createdView?, drops, hsubject]

end Definition

/-- Definitions that create an object of a kind and name and do not discard it again. -/
def CreatesAndKeeps (definitions : List Definition) (kind : ObjectKind) (name : Text) : Prop :=
  ∃ front definition back, definitions = front ++ definition :: back ∧
    definition.creates kind name ∧ ∀ later ∈ back, later.discards kind name = false

theorem createsAndKeeps_cons {definition : Definition} {definitions : List Definition}
    {kind : ObjectKind} {name : Text} :
    CreatesAndKeeps (definition :: definitions) kind name ↔
      (definition.creates kind name ∧
        ∀ later ∈ definitions, later.discards kind name = false) ∨
      CreatesAndKeeps definitions kind name :=
  exists_split_cons

/-- What a category has of a key behind some definitions. -/
theorem ObjectCategory.find?_isSome_steps {α β : Type} [BEq β] [LawfulBEq β]
    (category : ObjectCategory α β) {schema last : Schema} {definitions : List Definition}
    (h : schema.steps definitions = .ok last) (k : β) :
    ((category.objects last).find? (category.key · == k)).isSome = true ↔
      (((category.objects schema).find? (category.key · == k)).isSome = true ∧
        ∀ definition ∈ definitions, category.discards definition k = false) ∨
      ∃ front definition back, definitions = front ++ definition :: back ∧
        (∃ a, category.created? definition = some a ∧ category.key a = k) ∧
        ∀ later ∈ back, category.discards later k = false := by
  simp only [List.find?_isSome, beq_iff_eq, mem_objects_steps h, Remains]
  constructor
  · rintro ⟨a, ⟨ha, hstays⟩ | ⟨front, definition, back, hsplit, hcreated, hstays⟩, rfl⟩
    · exact .inl ⟨⟨a, ha, rfl⟩, hstays⟩
    · exact .inr ⟨front, definition, back, hsplit, ⟨a, hcreated, rfl⟩, hstays⟩
  · rintro (⟨⟨a, ha, rfl⟩, hstays⟩ | ⟨front, definition, back, hsplit, ⟨a, hcreated, rfl⟩, hstays⟩)
    · exact ⟨a, .inl ⟨ha, hstays⟩, rfl⟩
    · exact ⟨a, .inr ⟨front, definition, back, hsplit, hcreated, hstays⟩, rfl⟩

namespace Schema

/-- Behind some definitions, an object is there if it was before and none discards it, or if one
creates it and no later one discards it. -/
theorem hasObject_steps {schema last : Schema} {definitions : List Definition}
    (h : schema.steps definitions = .ok last) (kind : ObjectKind) (name : Text) :
    last.hasObject kind name = true ↔
      (schema.hasObject kind name = true ∧
        ∀ definition ∈ definitions, definition.discards kind name = false) ∨
      CreatesAndKeeps definitions kind name := by
  cases kind with
  | table => exact ObjectCategory.tables.find?_isSome_steps h name
  | view => exact ObjectCategory.views.find?_isSome_steps h name
  | routine kind => exact ObjectCategory.routines.find?_isSome_steps h (kind, name)

/-- The error of an object that is defined twice. -/
def repeatedError : ObjectKind → Text → SchemaError
  | .table, name => .repeatedTable name
  | .view, name => .repeatedView name
  | .routine kind, name => .repeatedRoutine kind name

/-- A definition is refused as repeated if its object is there, and a table also if there is a view
of its name. -/
theorem step_eq_repeated_iff {schema : Schema} {definition : Definition} {kind : ObjectKind}
    {name : Text} (h : definition.creates kind name) :
    schema.step definition = .error (repeatedError kind name) ↔
      schema.hasObject kind name = true ∨ (kind = .table ∧ (schema.view? name).isSome = true) := by
  cases kind with
  | table =>
      obtain ⟨table, hcreated, rfl⟩ := h
      obtain ⟨hsubject, hparse⟩ := Definition.createdTable?_eq_some.mp hcreated
      have hstep : schema.step definition = schema.addTable table := by
        simp [step, hsubject, hparse]
      rw [hstep, addTable]
      split
      · rename_i htaken
        exact iff_of_true rfl (by simpa [hasObject] using htaken)
      · rename_i hfree
        exact iff_of_false (by simp) (by simpa [hasObject] using hfree)
  | view =>
      obtain ⟨view, hcreated, rfl⟩ := h
      obtain ⟨hsubject, hparse⟩ := Definition.createdView?_eq_some.mp hcreated
      have hstep : schema.step definition = schema.addView view := by
        simp [step, hsubject, hparse]
      rw [hstep, addView]
      split
      · rename_i htaken
        exact iff_of_true rfl (by simpa [hasObject] using htaken)
      · rename_i hfree
        exact iff_of_false (by simp) (by simpa [hasObject] using hfree)
  | routine kind =>
      obtain ⟨routine, hcreated, hkey⟩ := h
      obtain ⟨⟨other, hsubject⟩, hparse⟩ := Definition.createdRoutine?_eq_some.mp hcreated
      simp only [Routine.key, Prod.mk.injEq] at hkey
      obtain ⟨rfl, rfl⟩ := hkey
      have hstep : schema.step definition = schema.addRoutine routine := by
        simp [step, hsubject, hparse]
      rw [hstep, addRoutine]
      split
      · rename_i htaken
        exact iff_of_true rfl (by simpa [hasObject, Routine.key] using htaken)
      · rename_i hfree
        exact iff_of_false (by simp) (by simpa [hasObject, Routine.key] using hfree)

/-- An object that is there before a statement that drops some listed ones, and that neither the
statement nor a later definition discards: it is not the first one in the list, or the statement has
`TEMPORARY`. -/
structure IsMissed (before : Schema) (isTemporary : Bool) (names : List Text)
    (later : List Definition) (kind : ObjectKind) (name : Text) : Prop where
  hasObject : before.hasObject kind name = true
  missed : isTemporary = true ∨ names.head? ≠ some name
  stays : ∀ definition ∈ later, definition.discards kind name = false

/-- Behind a statement that drops some listed objects, a listed one is there just if a later
definition creates it or the statement misses it. In both cases, and for a table also if there is a
view of its name, a definition that creates it is refused as repeated. -/
theorem hasObject_of_dropsListed {keepQuotes : Bool} {source raw : Text} {kind : ObjectKind}
    {isTemporary : Bool} {names front mid back : List Text} {drop : Text} {before schema : Schema}
    (hstatements : Dump.statements (Dump.decode keepQuotes raw) = front ++ drop :: (mid ++ back))
    (hdrop : Definition.DropsListed kind isTemporary names drop)
    (hbefore : (empty source).steps (Dump.recognised front) = .ok before)
    (hschema : (empty source).steps (Dump.recognised (front ++ drop :: mid)) = .ok schema) :
    parse keepQuotes source raw = schema.steps (Dump.recognised back) ∧
    ∀ name ∈ names,
      (schema.hasObject kind name = true ↔
        CreatesAndKeeps (Dump.recognised mid) kind name ∨
        before.IsMissed isTemporary names (Dump.recognised mid) kind name) ∧
      ∀ definition : Definition, definition.creates kind name →
        (schema.step definition = .error (repeatedError kind name) ↔
          CreatesAndKeeps (Dump.recognised mid) kind name ∨
          before.IsMissed isTemporary names (Dump.recognised mid) kind name ∨
          kind = .table ∧ (schema.view? name).isSome = true) := by
  obtain ⟨definition, hdefinition, hsubject, hname⟩ := hdrop.ofStatement?
  have hmid : Dump.recognised (front ++ drop :: mid)
      = Dump.recognised front ++ definition :: Dump.recognised mid := by
    rw [Dump.recognised, List.filterMap_append, List.filterMap_cons, hdefinition]
    rfl
  have hparse : parse keepQuotes source raw = schema.steps (Dump.recognised back) := by
    have hall : Dump.recognised (Dump.statements (Dump.decode keepQuotes raw))
        = Dump.recognised (front ++ drop :: mid) ++ Dump.recognised back := by
      rw [hstatements, ← List.cons_append, ← List.append_assoc]
      exact List.filterMap_append
    have hsome : Dump.recognised (Dump.statements (Dump.decode keepQuotes raw)) ≠ [] := by
      rw [hall, hmid]
      simp
    rw [parse, Dump.definitions_eq_recognised hsome, hall, steps_append, hschema]
    rfl
  rw [hmid, steps_append, hbefore] at hschema
  -- the drop takes away the name that it is read to have, which is the first one or none
  have hmisses (name : Text) : definition.discards kind name = false ↔
      isTemporary = true ∨ names.head? ≠ some name := by
    rw [Definition.discards_of_drop hsubject, hname, decide_eq_false_iff_not]
    cases isTemporary <;> simp
  have hobject (name : Text) : schema.hasObject kind name = true ↔
      CreatesAndKeeps (Dump.recognised mid) kind name ∨
      before.IsMissed isTemporary names (Dump.recognised mid) kind name := by
    -- it creates nothing, so what is there comes from a definition in front of it or behind it
    have hnot : ¬ definition.creates kind name := Definition.not_creates_of_drop hsubject
    rw [hasObject_steps hschema kind name, List.forall_mem_cons, hmisses, createsAndKeeps_cons,
      or_comm]
    simp only [hnot, false_and, false_or]
    refine or_congr_right ⟨?_, fun h => ⟨h.hasObject, h.missed, h.stays⟩⟩
    rintro ⟨hthere, hmissed, hstays⟩
    exact ⟨hthere, hmissed, hstays⟩
  refine ⟨hparse, fun name _ => ⟨hobject name, fun other hcreates => ?_⟩⟩
  rw [step_eq_repeated_iff hcreates, hobject, or_assoc]

/-- The statements of a dump that drops two tables at once and defines both again. -/
def redefinition : List Text :=
  ["CREATE TABLE a (\n  id int\n);", "CREATE TABLE b (\n  id int\n);",
    "DROP TABLE IF EXISTS a,\n  b;", "CREATE TABLE a (\n  n int\n);",
    "CREATE TABLE b (\n  n int\n);"]

/-- The second table is not dropped, and so its other definition is refused. -/
theorem hasObject_of_dropsListed_redefined : ∃ before schema,
    (empty []).steps (Dump.recognised (redefinition.take 2)) = .ok before ∧
    (empty []).steps (Dump.recognised (redefinition.take 4)) = .ok schema ∧
    before.hasObject .table "b" = true ∧ schema.hasObject .table "b" = true ∧
    parse false [] (unlines redefinition) = .error (.repeatedTable "b") := by
  have hdrop : Definition.DropsListed .table false [['a'], ['b']] "DROP TABLE IF EXISTS a,\n  b;" :=
    ⟨.inl rfl, "TABLE IF EXISTS a,\n  b;", "a,\n  b;", true, by decide, by decide,
      by decide +kernel, by decide, by decide⟩
  have hfront : ((empty []).steps (Dump.recognised (redefinition.take 2))).toOption.any
      (·.hasObject .table "b") = true := by decide +kernel
  cases hbefore : (empty []).steps (Dump.recognised (redefinition.take 2)) with
  | error error =>
      rw [hbefore] at hfront
      cases hfront
  | ok before =>
  cases hschema : (empty []).steps (Dump.recognised (redefinition.take 4)) with
  | error error =>
      have hsome : ((empty []).steps (Dump.recognised (redefinition.take 4))).toOption.isSome := by
        decide +kernel
      rw [hschema] at hsome
      cases hsome
  | ok schema =>
  rw [hbefore] at hfront
  have hstatements : Dump.statements (Dump.decode false (unlines redefinition))
      = redefinition.take 2 ++ "DROP TABLE IF EXISTS a,\n  b;".toList ::
        ((redefinition.take 4).drop 3 ++ redefinition.drop 4) := by decide +kernel
  obtain ⟨hparse, hnames⟩ := hasObject_of_dropsListed hstatements hdrop hbefore hschema
  obtain ⟨hobject, hrepeated⟩ := hnames ['b'] (by decide)
  have hmissed : before.IsMissed false [['a'], ['b']]
      (Dump.recognised ((redefinition.take 4).drop 3)) .table "b" :=
    ⟨hfront, .inr (by decide), by decide +kernel⟩
  refine ⟨before, schema, rfl, rfl, hfront, hobject.mpr (.inr hmissed), ?_⟩
  have hrecognised : Dump.recognised (redefinition.drop 4)
      = [⟨some (.create, .table), "CREATE TABLE b (\n  n int\n);"⟩] := by decide +kernel
  have hcreates :
      Definition.creates ⟨some (.create, .table), "CREATE TABLE b (\n  n int\n);"⟩ .table "b" := by
    have hcreated : (Definition.createdTable?
        ⟨some (.create, .table), "CREATE TABLE b (\n  n int\n);"⟩).any (·.name = ['b']) = true := by
      decide +kernel
    obtain ⟨table, htable, hname⟩ := Option.any_eq_true _ _ |>.mp hcreated
    exact ⟨table, htable, of_decide_eq_true hname⟩
  rw [hparse, hrecognised, steps, (hrepeated _ hcreates).mpr (.inr (.inl hmissed))]
  rfl

end Schema

end SchemaMigration
