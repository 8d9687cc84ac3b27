import SchemaMigration.Migration.SchemaComparison
import SchemaMigration.Proofs.Migration.TableChanges
import Mathlib.Data.List.Forall2

/-!
# What a server is asked to execute

The run of a migration is told by changes and steps, but a server is sent text. Here the text of a
statement is spelled out for every change of a table and for every step, apart from the definitions
that build it, and every statement of a migration is shown to be the text of the change or step at
its place. A run over changes is so a run over the statements that are emitted.

## Main Definitions

* `TableChange.WrittenAs` - what stands behind the name of a table in a statement that changes it
* `Statement.Alters`, `Statement.Executes` - a statement that asks for a change, and for a step
* `TableComparison.statements` - the statements about a table
* `TableComparison.alters_statements`, `SchemaComparison.executes_statements` - the statements in
  their order ask for the changes and steps in theirs
-/

namespace SchemaMigration

open Text

/-! ## Clauses -/

/-- The keywords in front of the name of an index. -/
inductive IndexKind.WrittenAs : IndexKind → Text → Prop
  | plain : WrittenAs .plain "INDEX"
  | unique : WrittenAs .unique "UNIQUE"
  | fulltext : WrittenAs .fulltext "FULLTEXT INDEX"
  | spatial : WrittenAs .spatial "SPATIAL INDEX"

/-- An index behind `ADD`. -/
inductive Index.WrittenAs (index : Index) : Text → Prop
  | named {keyword : Text} (hkind : index.kind.WrittenAs keyword) :
    index.WrittenAs (keyword ++ " " ++ index.name ++ " " ++ partsText index.parts ++
      spaced index.options)

/-- The place of a new column behind its definition. -/
inductive Placement.WrittenAs : Placement → Text → Prop
  | first : WrittenAs .first " FIRST"
  | last : WrittenAs .last []
  | after (column : Text) : WrittenAs (.after column) (" AFTER " ++ column)

/-- The key of a new column: the words in front of its place and the clause behind it. -/
inductive InlineKey.WrittenAs : InlineKey → Text → Text → Prop
  | none : WrittenAs .none [] []
  | primaryKey : WrittenAs .primaryKey " PRIMARY KEY" []
  | uniqueKey : WrittenAs .uniqueKey " UNIQUE KEY" []
  | andPrimaryKey (key : PrimaryKey) :
    WrittenAs (.andPrimaryKey key) [] (", ADD PRIMARY KEY " ++
      (partsText key.parts ++ spaced key.options))
  | andIndex {index : Index} {text : Text} (hindex : index.WrittenAs text) :
    WrittenAs (.andIndex index) [] (", ADD " ++ text)

/-- What stands behind the name of a table in a statement that changes it. -/
inductive TableChange.WrittenAs : TableChange → Text → Prop
  | dropForeignKey (name : Text) :
    WrittenAs (.dropForeignKey name) ("DROP FOREIGN KEY " ++ name)
  | dropCheck (name : Text) : WrittenAs (.dropCheck name) ("DROP CHECK " ++ name)
  | changeOptions (options : Text) : WrittenAs (.changeOptions false options) options
  | clearComment (options : Text) :
    WrittenAs (.changeOptions true options) (trimRight ("COMMENT='' " ++ options))
  | removePartitioning : WrittenAs .removePartitioning "REMOVE PARTITIONING"
  | setPartitioning (clause : Text) : WrittenAs (.setPartitioning clause) clause
  | addGuard (name : Text) (columns : List Text) :
    WrittenAs (.addGuard (some name) columns) ("ADD INDEX " ++ name ++ " " ++ partsText columns)
  /-- The server names a guard without a name after its first column. -/
  | addOwnGuard (columns : List Text) :
    WrittenAs (.addGuard none columns) ("ADD INDEX (" ++ columns.headD [] ++ ")")
  | dropIndex (name : Text) : WrittenAs (.dropIndex name) ("DROP INDEX " ++ name)
  | dropPrimaryKey : WrittenAs .dropPrimaryKey "DROP PRIMARY KEY"
  /-- A column keeps its name. -/
  | changeColumn (name definition : Text) : WrittenAs (.changeColumn name definition)
      ("CHANGE COLUMN " ++ name ++ " " ++ name ++ " " ++ definition)
  | addColumn (name definition : Text) {key : InlineKey} {place : Placement}
      {words position trailer : Text} (hkey : key.WrittenAs words trailer)
      (hplace : place.WrittenAs position) : WrittenAs (.addColumn name definition key place)
      ("ADD COLUMN " ++ name ++ " " ++ definition ++ words ++ position ++ trailer)
  | addPrimaryKey (key : PrimaryKey) : WrittenAs (.addPrimaryKey key)
      ("ADD PRIMARY KEY " ++ (partsText key.parts ++ spaced key.options))
  | addIndex {index : Index} {text : Text} (hindex : index.WrittenAs text) :
    WrittenAs (.addIndex index) ("ADD " ++ text)
  | dropColumn (name : Text) : WrittenAs (.dropColumn name) ("DROP COLUMN " ++ name)
  | addForeignKey (key : ForeignKey) : WrittenAs (.addForeignKey key)
      ("ADD " ++ ("CONSTRAINT " ++ key.name ++ " FOREIGN KEY " ++ (partsText key.parts ++
        " REFERENCES " ++ key.refTable ++ " " ++ partsText key.refParts ++ spaced key.actions)))
  | addCheck (check : CheckConstraint) : WrittenAs (.addCheck check)
      ("ADD CONSTRAINT " ++ check.name ++ " " ++
        ("CHECK (" ++ check.expression ++ ")" ++ spaced check.options))
  | dropGuard (name : Text) : WrittenAs (.dropGuard name) ("DROP INDEX " ++ name)

theorem Index.writtenAs_clause (index : Index) : index.WrittenAs index.clause := by
  refine .named ?_
  cases index.kind <;> constructor

theorem Placement.writtenAs_clause (place : Placement) : place.WrittenAs place.clause := by
  cases place <;> constructor

theorem InlineKey.writtenAs_trailer (key : InlineKey) : key.WrittenAs key.words key.trailer := by
  cases key with
  | andIndex index => exact .andIndex index.writtenAs_clause
  | _ => constructor

/-- Every change is written as its clause. -/
theorem TableChange.writtenAs_clause (change : TableChange) :
    change.WrittenAs change.clause := by
  cases change with
  | changeOptions clearsComment options => cases clearsComment <;> constructor
  | addGuard name columns => cases name <;> constructor
  | addColumn name definition key place =>
      exact .addColumn name definition key.writtenAs_trailer place.writtenAs_clause
  | addIndex index => exact .addIndex index.writtenAs_clause
  | _ => constructor

/-! ## Statements -/

namespace Statement

/-- A statement of a phase about an object, with its text. -/
structure Reads (statement : Statement) (phase : Phase) (name sql : Text) : Prop where
  phase_eq : statement.phase = phase
  name_eq : statement.name = name
  sql_eq : statement.sql = sql

/-- A statement that asks for one change of a table. -/
def Alters (table : Text) (statement : Statement) (change : TableChange) : Prop :=
  ∃ clause, change.WrittenAs clause ∧
    statement.Reads change.phase table ("ALTER TABLE " ++ table ++ " " ++ clause ++ ";")

/-- A statement that asks for one step. Objects are created as their definitions say. -/
inductive Executes (statement : Statement) : Step → Prop
  | alterTable {table : Text} {step : TableStep} (h : statement.Alters table step.change) :
    Executes statement (.alterTable table step)
  | dropTable {name : Text} (h : statement.Reads .dropTable name ("DROP TABLE " ++ name ++ ";")) :
    Executes statement (.dropTable name)
  | createTable {table : Table}
      (h : statement.Reads .createTable table.name table.createStatement) :
    Executes statement (.createTable table)
  | dropRoutine {routine : Routine} (h : statement.Reads .dropRoutine routine.name
      ("DROP " ++ routine.kind.word ++ " " ++ routine.name ++ ";")) :
    Executes statement (.dropRoutine routine)
  | createRoutine {routine : Routine}
      (h : statement.Reads .createRoutine routine.name routine.createStatement) :
    Executes statement (.createRoutine routine)
  | replaceRoutine {old new : Routine} (h : statement.Reads .createRoutine new.name
      ("DROP " ++ old.kind.word ++ " " ++ old.name ++ ";\n" ++ new.createStatement)) :
    Executes statement (.replaceRoutine old new)
  | dropView {name : Text} (h : statement.Reads .dropView name ("DROP VIEW " ++ name ++ ";")) :
    Executes statement (.dropView name)
  | createView {view : View} (h : statement.Reads .createView view.name ("CREATE " ++ view.body)) :
    Executes statement (.createView view)
  | alterView {view : View} (h : statement.Reads .createView view.name ("ALTER " ++ view.body)) :
    Executes statement (.alterView view)

end Statement

/-- The statement of a change asks for it. -/
theorem TableStep.alters_statement (step : TableStep) (table : Text) :
    (step.statement table).Alters table step.change :=
  ⟨_, step.change.writtenAs_clause, rfl, rfl, rfl⟩

/-- The statement of a step asks for it. -/
theorem Step.executes_statement (step : Step) : step.statement.Executes step := by
  cases step with
  | alterTable table step => exact .alterTable (step.alters_statement table)
  | replaceRoutine old new =>
      have hend : (";\n" : Text) = ";" ++ "\n" := rfl
      refine .replaceRoutine ⟨rfl, rfl, ?_⟩
      rw [hend, ← List.append_assoc]
      rfl
  | _ => constructor; exact ⟨rfl, rfl, rfl⟩

/-- Whether tables are altered in a phase. -/
def Phase.altersTables : Phase → Bool
  | dropRoutine | dropView | dropTable | createTable | createView | createRoutine => false
  | _ => true

@[simp] theorem TableChange.altersTables_phase (change : TableChange) :
    change.phase.altersTables = true := by
  cases change <;> rfl

namespace TableComparison

variable (c : TableComparison)

/-- The statements about a table in order of execution. -/
def statements : List Statement := Statement.arrange (c.steps.map (·.statement c.name))

/-- Each statement about a table asks for the change at its place. -/
theorem alters_statements :
    List.Forall₂ (Statement.Alters c.name) c.statements c.changes := by
  rw [statements, arrange_statements, changes_eq_map, List.forall₂_map_left_iff,
    List.forall₂_map_right_iff, List.forall₂_same]
  intro step _
  exact step.alters_statement c.name

/-- So the statements of some phases ask for the changes of those phases. -/
theorem alters_filter_statements (phases : List Phase) :
    List.Forall₂ (Statement.Alters c.name) (c.statements.filter (·.phase ∈ phases))
      (c.changes.filter (·.phase ∈ phases)) := by
  refine List.rel_filter ?_ c.alters_statements
  rintro statement change ⟨clause, -, hreads⟩
  simp only [hreads.phase_eq]

/-- Every change is asked for by a statement. -/
theorem exists_statement {change : TableChange} (h : change ∈ c.changes) :
    ∃ statement ∈ c.statements, statement.Alters c.name change := by
  rw [changes_eq_map] at h
  obtain ⟨step, hstep, rfl⟩ := List.mem_map.mp h
  refine ⟨step.statement c.name, ?_, step.alters_statement c.name⟩
  rw [statements, arrange_statements]
  exact List.mem_map_of_mem hstep

end TableComparison

/-- Each statement of a migration asks for the step at its place. -/
theorem SchemaComparison.executes_statements (s : SchemaComparison) :
    List.Forall₂ Statement.Executes s.statements s.steps := by
  rw [statements, List.forall₂_map_left_iff, List.forall₂_same]
  intro step _
  exact step.executes_statement

end SchemaMigration
