import SchemaMigration.Migration.TableChange
import SchemaMigration.Table.Options
import SchemaMigration.Options.Basic
import SchemaMigration.Digest
import SchemaMigration.Migration.Event

/-!
# Comparing two tables

The steps that turn one table into another of the same name. MySQL insists, at every moment,
that an auto-increment column is the first column of some key and that every foreign key has
a key that starts with its columns. Where dropping keys would break that, a guard index is
added before and dropped at the end.

## Main Definitions

* `TableComparison` - two tables, and the columns that foreign keys elsewhere refer to
* `TableComparison.guards` - the guard indexes that the migration needs
* `TableComparison.steps` - the steps, in order of discovery
* `TableComparison.events` - what the comparison reports

## Design Notes

A guard for a column is anonymous, so the server names it after the column, unless that name
is in use. If the new table has a plain index over just that column under that name, the
guard is that index: it is adopted and stays.
-/

namespace SchemaMigration

open Text

/-- An index that stands in for dropped keys while a migration runs. -/
structure Guard where
  /-- The name of the index; one without a name is named by the server after its column. -/
  name : Option Text
  columns : List Text
  /-- Whether it stands in for the key of an auto-increment column, and not for that of a
  foreign key. -/
  isForAutoIncrement : Bool
  /-- Whether the new table has just this index, so that it stays. -/
  isAdopted : Bool
  deriving DecidableEq

namespace Guard

/-- The name that the index has on the server. -/
def indexName (guard : Guard) : Text := guard.name.getD (guard.columns.headD [])

/-- What a report says about the guard. -/
def comment (guard : Guard) : Text :=
  if guard.isForAutoIncrement then "auto columns must always be indexed".toList else []

end Guard

/-- Two tables of one name that are to be compared. -/
structure TableComparison where
  old : Table
  new : Table
  options : Options
  /-- The columns that foreign keys refer to which the migration leaves alone. -/
  incoming : List (List Text)

namespace TableComparison

variable (c : TableComparison)

/-- The name of both tables. -/
def name : Text := c.old.name

/-- Whether a column goes away. -/
def dropsColumn (column : Text) : Bool :=
  (c.old.column? column).isSome && (c.new.column? column).isNone

/-- Whether the primary key is another one. -/
def changesPrimaryKey : Bool := c.old.primaryKey != c.new.primaryKey

/-- Whether an index stays as it is. -/
def keepsIndex (index : Index) : Bool := c.new.index? index.name == some index

/-- Whether a foreign key stays as it is. -/
def keepsForeignKey (key : ForeignKey) : Bool := c.new.foreignKey? key.name == some key

/-- Whether a check constraint stays as it is. -/
def keepsCheck (check : CheckConstraint) : Bool := c.new.check? check.name == some check

/-- The leading columns of the keys that the migration leaves alone. -/
def survivingKeys : List (List Text) :=
  (c.old.indexes.filter c.keepsIndex).map (fun index => leadingColumns index.parts) ++
  if c.changesPrimaryKey then []
  else c.old.primaryKey.toList.map fun key => leadingColumns key.parts

/-! ## Guards -/

/-- Whether a column numbers its rows before or after the migration. -/
def isAutoIncrementOnce (column : Column) : Bool :=
  column.isAutoIncrement || (c.new.column? column.name).any (·.isAutoIncrement)

/-- The columns whose key goes away although they must have one. -/
def unguardedColumns : List Text :=
  (c.old.columns.filter fun column =>
    c.isAutoIncrementOnce column &&
      ! c.survivingKeys.any fun lead => lead.head? == some column.name).map (·.name)

/-- The name of a guard that cannot be named after its column. -/
def hashedName (column : Text) : Text :=
  "mysqldiff_" ++ Digest.md5 (c.name ++ "_" ++ column)

/-- The guard of an auto-increment column. -/
def columnGuard (column : Text) : Guard :=
  let hashed : Guard :=
    { name := some (c.hashedName column), columns := [column],
      isForAutoIncrement := true, isAdopted := false }
  if (c.old.index? column).isSome then hashed
  else match c.new.index? column with
    | none => { hashed with name := none }
    | some index =>
      if index.kind = .plain ∧ index.parts = [column] ∧ index.options = [] then
        { hashed with name := none, isAdopted := true }
      else hashed

/-- The guards of auto-increment columns. -/
def columnGuards : List Guard := c.unguardedColumns.map c.columnGuard

/-- The name of the guard of a foreign key. -/
def keyGuardName (columns : List Text) : Text := "temp_" ++ Digest.md5 (join "," columns)

/-- Guards for those of the given columns that no key covers and no earlier guard. -/
def keyGuardsFor (covered : List (List Text)) : List (List Text) → List Guard
  | [] => []
  | columns :: rest =>
    if columns.isEmpty || covered.any (columns.isPrefixOf ·) then keyGuardsFor covered rest
    else
      { name := some (keyGuardName columns), columns,
        isForAutoIncrement := false, isAdopted := false } ::
          keyGuardsFor (covered ++ [columns]) rest

/-- The columns of the foreign keys that stay, in this table and in those that refer to it. -/
def servedColumns : List (List Text) :=
  (c.old.foreignKeys.filter c.keepsForeignKey).map (fun key => namedColumns key.parts) ++ c.incoming

/-- The guards of foreign keys. -/
def keyGuards : List Guard :=
  keyGuardsFor (c.survivingKeys ++ c.columnGuards.map (·.columns)) c.servedColumns

/-- All guards in the order in which they are added. -/
def guards : List Guard := c.columnGuards ++ c.keyGuards

/-- Whether the new table has an index just like a guard, under the name of its column. -/
def adoptsIndex (name : Text) : Bool :=
  c.columnGuards.any fun guard => guard.isAdopted && guard.columns == [name]

/-- Whether a guard goes away together with one of its columns. -/
def losesGuard (guard : Guard) : Bool := guard.columns.any c.dropsColumn

/-! ## Steps -/

/-- Foreign keys that go away or are to be re-created. -/
def foreignKeyDrops : List TableStep :=
  (c.old.foreignKeys.filter fun key => ! c.keepsForeignKey key).map fun key => {
    change := .dropForeignKey key.name
    action := if (c.new.foreignKey? key.name).isNone then .dropForeignKey else .changeForeignKey
    comment := "was " ++ key.clause }

/-- Check constraints that go away or are to be re-created. -/
def checkDrops : List TableStep :=
  (c.old.checks.filter fun check => ! c.keepsCheck check).map fun check => {
    change := .dropCheck check.name
    action := .dropCheck
    comment := "was " ++ check.describe }

/-- A text, or the word for a missing one. -/
def orBlank (text : Text) : Text := if text.isEmpty then "blank" else text

/-- Whether the options in front of the partitioning differ. -/
def changesOptions : Bool :=
  c.options.normalizeTableOptions c.old.baseOptions !=
    c.options.normalizeTableOptions c.new.baseOptions

/-- The options that the table gets. In tolerant mode the row counter is not set. -/
def targetOptions : Text :=
  if c.options.tolerant then trim (withoutCounter c.new.baseOptions) else c.new.baseOptions

/-- The change of the options. -/
def optionSteps : List TableStep :=
  if c.changesOptions then
    [{ change := .changeOptions (! c.new.hasComment) c.targetOptions
       action := .changeOptions
       comment := "was " ++ orBlank c.old.baseOptions }]
  else []

/-- The change of the partitioning. -/
def partitioningSteps : List TableStep :=
  if c.old.partitioning = c.new.partitioning then []
  else
    (if c.old.partitioning.isEmpty then []
      else [{ change := .removePartitioning, action := .dropPartitioning, comment := [] }]) ++
    (if c.new.partitioning.isEmpty then []
      else [{ change := .setPartitioning c.new.partitioning
              action := .changePartitions
              comment := "was " ++ orBlank c.old.partitioning }])

/-- The guards that are added. -/
def guardAdditions : List TableStep :=
  c.guards.map fun guard => {
    change := .addGuard guard.name guard.columns
    action := .addTemporaryIndex
    comment := guard.comment }

/-- Indexes that go away or are to be re-created. -/
def indexDrops : List TableStep :=
  (c.old.indexes.filter fun index => ! c.keepsIndex index).map fun index => {
    change := .dropIndex index.name
    action := if (c.new.index? index.name).isNone then .dropIndex else .changeIndex
    comment := "was " ++ index.describe }

/-- The primary key, if it goes away or is to be re-created. -/
def primaryKeyDrops : List TableStep :=
  if c.changesPrimaryKey then
    c.old.primaryKey.toList.map fun key => {
      change := .dropPrimaryKey
      action := if c.new.primaryKey.isNone then .dropPrimaryKey else .changePrimaryKey
      comment := "was " ++ key.describe }
  else []

/-- The new column of an old one, if its definition differs. -/
def changedColumn? (column : Column) : Option Column :=
  (c.new.column? column.name).filter fun new =>
    c.options.normalizeColumn column.definition != c.options.normalizeColumn new.definition

/-- Columns that get another definition. -/
def columnChanges : List TableStep :=
  c.old.columns.filterMap fun column =>
    (c.changedColumn? column).map fun new => {
      change := .changeColumn column.name new.definition
      action := .changeColumn
      comment := "was " ++ column.definition }

/-- The columns that only the new table has. An auto-increment column comes behind all
others, since it arrives together with its key, which may need them. -/
def addedColumns : List Column :=
  let added := c.new.columns.filter fun column => (c.old.column? column.name).isNone
  added.filter (! ·.isAutoIncrement) ++ added.filter (·.isAutoIncrement)

/-- The first index that only the new table has and that starts with a column. -/
def newIndexOf? (column : Text) : Option Index :=
  c.new.indexes.find? fun index =>
    (c.old.index? index.name).isNone && (leadingColumns index.parts).head? == some column

/-- The key that an added column arrives with, apart from the primary key. -/
def indexFor (column : Column) : InlineKey :=
  if column.isAutoIncrement then
    match c.newIndexOf? column.name with
    | some index => .andIndex index
    | none => .none
  else
    match c.new.index? column.name with
    | some index =>
      if (c.old.index? index.name).isNone ∧ index.kind = .unique ∧
          index.parts = [column.name] ∧ index.options = [] then .uniqueKey
      else .none
    | none => .none

/-- The key that an added column arrives with. -/
def inlineKey (column : Column) : InlineKey :=
  match c.new.primaryKey with
  | none => c.indexFor column
  | some key =>
    if c.changesPrimaryKey && (namedColumns key.parts).contains column.name then
      if namedColumns key.parts = [column.name] ∧ key.parts.length = 1 ∧ key.options = [] then
        .primaryKey
      else if column.isAutoIncrement then .andPrimaryKey key
      else c.indexFor column
    else c.indexFor column

/-- Where an added column goes, given the columns that are there when it is added. -/
def placement (placed : List Text) (column : Column) : Placement :=
  if column.position = 0 then .first
  else if column.position + 1 = c.new.columns.length then .last
  else
    match (c.new.columns.take column.position).reverse.find? fun p => placed.contains p.name with
    | some previous => .after previous.name
    | none => .first

/-- The given columns as they are added one after the other. -/
def additionsBehind (placed : List Text) : List Column → List TableStep
  | [] => []
  | column :: rest =>
    { change := .addColumn column.name column.definition (c.inlineKey column)
        (c.placement placed column)
      action := .addColumn
      comment := [] } :: additionsBehind (placed ++ [column.name]) rest

/-- Columns that are added. -/
def columnAdditions : List TableStep := c.additionsBehind c.old.columnNames c.addedColumns

/-- Whether an added column brings the primary key. -/
def addsPrimaryKeyInline : Bool :=
  c.addedColumns.any fun column =>
    match c.inlineKey column with
    | .primaryKey | .andPrimaryKey _ => true
    | _ => false

/-- Whether an added column brings the index of a name. -/
def addsIndexInline (name : Text) : Bool :=
  c.addedColumns.any fun column =>
    match c.inlineKey column with
    | .uniqueKey => column.name == name
    | .andIndex index => index.name == name
    | _ => false

/-- The primary key, if it is new and does not arrive with a column. -/
def primaryKeyAdditions : List TableStep :=
  if c.changesPrimaryKey && ! c.addsPrimaryKeyInline then
    c.new.primaryKey.toList.map fun key => {
      change := .addPrimaryKey key
      action := if c.old.primaryKey.isNone then .addPrimaryKey else .changePrimaryKey
      comment := [] }
  else []

/-- Indexes that are new and neither arrive with a column nor are there as guards. -/
def indexAdditions : List TableStep :=
  (c.new.indexes.filter fun index =>
    c.old.index? index.name != some index && ! c.addsIndexInline index.name &&
      ! c.adoptsIndex index.name).map fun index => {
    change := .addIndex index
    action := if (c.old.index? index.name).isNone then .addIndex else .changeIndex
    comment := [] }

/-- The columns that go away. -/
def droppedColumns : List Column := c.old.columns.filter fun column => c.dropsColumn column.name

/-- Columns that are dropped. -/
def columnDrops : List TableStep :=
  c.droppedColumns.map fun column => {
    change := .dropColumn column.name
    action := .dropColumn
    comment := "was " ++ column.definition }

/-- Foreign keys that are new. -/
def foreignKeyAdditions : List TableStep :=
  (c.new.foreignKeys.filter fun key => c.old.foreignKey? key.name != some key).map fun key => {
    change := .addForeignKey key
    action := if (c.old.foreignKey? key.name).isNone then .addForeignKey else .changeForeignKey
    comment := [] }

/-- Check constraints that are new. -/
def checkAdditions : List TableStep :=
  (c.new.checks.filter fun check => c.old.check? check.name != some check).map fun check => {
    change := .addCheck check
    action := .addCheck
    comment := [] }

/-- The guards that are not adopted, whose columns tell whether they are still there. -/
def temporaryGuards : List Guard :=
  c.guards.filter fun guard =>
    ! (guard.name.isNone && c.adoptsIndex (guard.columns.headD []))

/-- The guards that are dropped at the end. -/
def guardDrops : List TableStep :=
  (c.temporaryGuards.filter fun guard => ! c.losesGuard guard).map fun guard => {
    change := .dropGuard guard.indexName
    action := .dropTemporaryIndex
    comment := [] }

/-- All steps in order of discovery. -/
def steps : List TableStep :=
  c.foreignKeyDrops ++ c.checkDrops ++ c.optionSteps ++ c.partitioningSteps ++ c.guardAdditions ++
  c.indexDrops ++ c.primaryKeyDrops ++ c.columnChanges ++ c.columnAdditions ++
  c.primaryKeyAdditions ++ c.indexAdditions ++ c.columnDrops ++ c.foreignKeyAdditions ++
  c.checkAdditions ++ c.guardDrops

/-! ## Events -/

/-- What the search for guards reports. -/
def guardNotes : Journal :=
  c.guards.map fun guard =>
    if guard.isForAutoIncrement then
      .debug ("auto column " ++ c.name ++ "." ++ guard.columns.headD [] ++
        " loses its index; adding a guard")
    else
      .debug ("foreign key columns " ++ c.name ++ ".(" ++ join "," guard.columns ++
        ") lose their index; adding a guard")

/-- What the comparison of indexes reports. -/
def indexNotes : Journal :=
  (c.old.indexes.filter fun index => ! c.keepsIndex index).map fun index =>
    .debug ("index " ++ c.name ++ "." ++ index.name ++ " " ++
      (if (c.new.index? index.name).isNone then "removed".toList else "changed"))

/-- A note on a column. -/
def columnNote (column verb : Text) : Note :=
  .debug ("field " ++ c.name ++ "." ++ column ++ " " ++ verb)

/-- What the comparison of columns that both tables have reports. -/
def columnEvents : List Event :=
  c.old.columns.flatMap fun column =>
    match c.new.column? column.name with
    | none => []
    | some new =>
      Event.ofResult (c.options.normalization .column column.definition) ++
      Event.ofResult (c.options.normalization .column new.definition) ++
      (if (c.changedColumn? column).isSome then [.note (c.columnNote column.name "changed")]
        else [])

/-- What the removal of guards reports. -/
def guardDropNotes : Journal :=
  (c.temporaryGuards.filter c.losesGuard).map fun guard =>
    .debug ("guard on " ++ c.name ++ ".(" ++ join "," guard.columns ++
      ") goes away with its column")

/-- What the comparison reports. It breaks off where a pattern cannot be applied. -/
def events : List Event :=
  .note (.debug ("comparing tables called " ++ c.name)) ::
  Event.ofJournal c.guardNotes ++
  Event.ofResult (c.options.normalization .options c.old.baseOptions) ++
  Event.ofResult (c.options.normalization .options c.new.baseOptions) ++
  (if c.changesOptions then [.note (.debug (c.name ++ " options changed"))] else []) ++
  Event.ofJournal c.indexNotes ++
  c.columnEvents ++
  Event.ofJournal (c.addedColumns.map fun column => c.columnNote column.name "added") ++
  Event.ofJournal (c.droppedColumns.map fun column => c.columnNote column.name "removed") ++
  Event.ofJournal c.guardDropNotes

end TableComparison

end SchemaMigration
