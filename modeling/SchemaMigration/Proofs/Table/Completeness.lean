import SchemaMigration.Proofs.Table.Origin

/-!
# Every line of a table

A table that was read has one part for each line of its body and no other, in the order of the
lines. A key without a name gets one that depends on the keys in front of it only: an index the name
of its first column, or that name with the smallest number that no index in front of it has.

## Main Definitions

* `InOrder` - items that stand for lines, one by one
* `Column.IsOf`, `Index.IsOf` and their likes - what a part is of its line, behind others
* `Table.Draft.IsOf` - the parts of a draft are those of another one and of some lines
* `Table.Draft.Takes.isOf` - a line adds its part
* `Table.HasParts` - a table has the parts of some lines, under distinct names
* `Table.hasParts_of_parse` - so has a table that was read, those up to the closing parenthesis

## Design Notes

What a line adds depends on the parts of its sort that are there, so the lines of one sort are taken
together and each is told with the parts in front of it. Distinct names then need no word of their
own: no part has the name of one in front of it.
-/

namespace SchemaMigration

open Text

/-! ## Items for lines -/

/-- Items behind others stand for lines, each for one, in order. -/
inductive InOrder {β : Type} (IsOf : List β → TableLine → β → Prop) :
    List β → List TableLine → List β → Prop
  | nil (front : List β) : InOrder IsOf front [] []
  | cons {front : List β} {line : TableLine} {lines : List TableLine} {item : β} {items : List β}
      (hitem : IsOf front line item) (hrest : InOrder IsOf (front ++ [item]) lines items) :
      InOrder IsOf front (line :: lines) (item :: items)

namespace InOrder

variable {β : Type} {IsOf : List β → TableLine → β → Prop} {front items : List β}
  {lines : List TableLine}

theorem append {more : List TableLine} {others : List β} (h : InOrder IsOf front lines items)
    (hmore : InOrder IsOf (front ++ items) more others) :
    InOrder IsOf front (lines ++ more) (items ++ others) := by
  induction h with
  | nil front => simpa using hmore
  | cons hitem _ ih => exact .cons hitem (ih (by simpa using hmore))

theorem singleton {line : TableLine} {item : β} (h : IsOf front line item) :
    InOrder IsOf front [line] [item] :=
  .cons h (.nil _)

/-- There are as many items as lines. -/
theorem length_eq (h : InOrder IsOf front lines items) : lines.length = items.length := by
  induction h with
  | nil => rfl
  | cons _ _ ih => exact congrArg (· + 1) ih

theorem eq_nil_iff (h : InOrder IsOf front lines items) : items = [] ↔ lines = [] := by
  rw [← List.length_eq_zero_iff, ← h.length_eq, List.length_eq_zero_iff]

/-- What lines give is found at their items in order, if each line gives nothing or what its item
has. -/
theorem sublist {γ : Type} {given : TableLine → Option γ} {key : β → γ}
    (hgiven : ∀ front line item, IsOf front line item →
      given line = some (key item) ∨ given line = none)
    (h : InOrder IsOf front lines items) : (lines.filterMap given).Sublist (items.map key) := by
  induction h with
  | nil => exact .slnil
  | cons hitem _ ih =>
      rcases hgiven _ _ _ hitem with hsome | hnone
      · rw [List.filterMap_cons_some hsome]
        exact ih.cons_cons _
      · rw [List.filterMap_cons_none hnone]
        exact ih.cons _

end InOrder

/-- Behind the items that are there stand those of some lines, and no others. -/
def Adds {β : Type} (IsOf : List β → TableLine → β → Prop) (start : List β)
    (lines : List TableLine) (items : List β) : Prop :=
  ∃ added, items = start ++ added ∧ InOrder IsOf start lines added

namespace Adds

variable {β : Type} {IsOf : List β → TableLine → β → Prop} {start items : List β}
  {lines : List TableLine}

theorem nil (start : List β) : Adds IsOf start [] start :=
  ⟨[], (List.append_nil start).symm, .nil start⟩

theorem singleton {line : TableLine} {item : β} (h : IsOf start line item) :
    Adds IsOf start [line] (start ++ [item]) :=
  ⟨[item], rfl, .singleton h⟩

theorem trans {more : List TableLine} {others : List β} (h : Adds IsOf start lines items)
    (hmore : Adds IsOf items more others) : Adds IsOf start (lines ++ more) others := by
  obtain ⟨added, rfl, hadded⟩ := h
  obtain ⟨behind, rfl, hbehind⟩ := hmore
  exact ⟨added ++ behind, by rw [List.append_assoc], hadded.append hbehind⟩

/-- Where nothing is there, the items are those of the lines. -/
theorem inOrder (h : Adds IsOf [] lines items) : InOrder IsOf [] lines items := by
  obtain ⟨added, rfl, hadded⟩ := h
  exact hadded

end Adds

/-! ## Names -/

/-- A name is the stem with the first number from `start` on that makes a name not taken. -/
def IsFirstNumbered (stem : Text) (start : Nat) (taken : List Text) (name : Text) : Prop :=
  ∃ n ≥ start, name = numbered stem n ∧ ∀ m, start ≤ m → m < n → numbered stem m ∈ taken

/-- A part has the name that its line gives, or one that is chosen; no part in front of it has. -/
def TakesName (given : Option Text) (IsChosen : Text → Prop) (taken : List Text) (name : Text) :
    Prop :=
  name ∉ taken ∧ (given = some name ∨ given = none ∧ IsChosen name)

theorem isFirstNumbered_firstFree (stem : Text) (taken : List Text) (bound start : Nat) :
    IsFirstNumbered stem start taken (firstFree stem taken bound start) := by
  induction bound generalizing start with
  | zero => exact ⟨start, le_rfl, rfl, fun m hle hlt => absurd hle (Nat.not_le.mpr hlt)⟩
  | succ bound ih =>
      rw [firstFree]
      split
      · rename_i htaken
        obtain ⟨n, hn, hname, hpassed⟩ := ih (start + 1)
        refine ⟨n, Nat.le_of_succ_le hn, hname, fun m hle hlt => ?_⟩
        rcases Nat.eq_or_lt_of_le hle with rfl | hless
        · exact htaken
        · exact hpassed m hless hlt
      · exact ⟨start, le_rfl, rfl, fun m hle hlt => absurd hle (Nat.not_le.mpr hlt)⟩

/-- The name of an index without one: its stem, or the stem with the first free number from 2 on. -/
theorem indexName_isChosen (draft : Table.Draft) (parts : List Text) :
    draft.indexName parts = indexStem parts ∨ indexStem parts ∈ draft.indexes.map (·.name) ∧
      IsFirstNumbered (indexStem parts) 2 (draft.indexes.map (·.name)) (draft.indexName parts) := by
  simp only [Table.Draft.indexName]
  split
  · rename_i htaken
    exact .inr ⟨htaken, isFirstNumbered_firstFree _ _ _ _⟩
  · exact .inl rfl

/-! ## Parts -/

/-- A column of a line behind others. -/
def Column.IsOf (front : List Column) (line : TableLine) (column : Column) : Prop :=
  line = .column column.name column.definition ∧ column.position = front.length ∧
    column.name ∉ front.map (·.name)

/-- The primary key of a line; none is in front of it. -/
def PrimaryKey.IsOf (front : List PrimaryKey) (line : TableLine) (key : PrimaryKey) : Prop :=
  front = [] ∧ ∃ partsText, line = .primaryKey partsText key.options ∧
    key.parts = listItems partsText

/-- An index of a line behind others. Without a name it is called like its first column, or with the
smallest number from 2 on that makes a name which no index in front of it has. -/
def Index.IsOf (front : List Index) (line : TableLine) (index : Index) : Prop :=
  ∃ given partsText, line = .index given index.kind partsText index.options ∧
    index.parts = listItems partsText ∧
    TakesName given (fun name => name = indexStem index.parts ∨
        indexStem index.parts ∈ front.map (·.name) ∧
          IsFirstNumbered (indexStem index.parts) 2 (front.map (·.name)) name)
      (front.map (·.name)) index.name

/-- A foreign key of a line behind others. -/
def ForeignKey.IsOf (table : Text) (front : List ForeignKey) (line : TableLine)
    (key : ForeignKey) : Prop :=
  ∃ given partsText refPartsText,
    line = .foreignKey given partsText key.refTable refPartsText key.actions ∧
      key.parts = listItems partsText ∧ key.refParts = listItems refPartsText ∧
      TakesName given (IsFirstNumbered (table ++ "_ibfk") (front.length + 1) (front.map (·.name)))
        (front.map (·.name)) key.name

/-- A check constraint of a line behind others. -/
def CheckConstraint.IsOf (table : Text) (front : List CheckConstraint) (line : TableLine)
    (check : CheckConstraint) : Prop :=
  ∃ given, line = .check given check.expression check.options ∧
    TakesName given (IsFirstNumbered (table ++ "_chk") (front.length + 1) (front.map (·.name)))
      (front.map (·.name)) check.name

namespace Table.Draft

/-- A draft has the parts of another one and behind them those of some lines, one for each line of
their sort, in order. -/
structure IsOf (table : Text) (start : Draft) (lines : List TableLine) (draft : Draft) : Prop where
  columns : Adds Column.IsOf start.columns (lines.filter (· matches .column ..)) draft.columns
  primaryKey : Adds PrimaryKey.IsOf start.primaryKey.toList
    (lines.filter (· matches .primaryKey ..)) draft.primaryKey.toList
  indexes : Adds Index.IsOf start.indexes (lines.filter (· matches .index ..)) draft.indexes
  foreignKeys : Adds (ForeignKey.IsOf table) start.foreignKeys
    (lines.filter (· matches .foreignKey ..)) draft.foreignKeys
  checks : Adds (CheckConstraint.IsOf table) start.checks (lines.filter (· matches .check ..))
    draft.checks

theorem isOf_nil (table : Text) (draft : Draft) : IsOf table draft [] draft where
  columns := .nil _
  primaryKey := .nil _
  indexes := .nil _
  foreignKeys := .nil _
  checks := .nil _

theorem IsOf.trans {table : Text} {start middle last : Draft} {lines more : List TableLine}
    (h : IsOf table start lines middle) (hmore : IsOf table middle more last) :
    IsOf table start (lines ++ more) last := by
  constructor <;> rw [List.filter_append]
  · exact h.columns.trans hmore.columns
  · exact h.primaryKey.trans hmore.primaryKey
  · exact h.indexes.trans hmore.indexes
  · exact h.foreignKeys.trans hmore.foreignKeys
  · exact h.checks.trans hmore.checks

/-- The name that a part gets is one that it may have. -/
theorem GetsName.takesName {taken : List Text} {fallback name : Text} {given : Option Text}
    {IsChosen : Text → Prop} (h : GetsName taken fallback given name)
    (hfallback : IsChosen fallback) (hfree : fallback ∉ taken) :
    TakesName given IsChosen taken name := by
  refine ⟨h.notMem hfree, ?_⟩
  rcases h with ⟨hgiven, -⟩ | ⟨hnone, rfl⟩
  · exact .inl hgiven
  · exact .inr ⟨hnone, hfallback⟩

/-- Keys whose names are numbered by how many there are have the first free number from there on. -/
theorem GetsName.takesFirstNumbered {β : Type} {key : β → Text} {items : List β}
    {stem name : Text} {given : Option Text}
    (h : GetsName (items.map key) (firstFree stem (items.map key) (items.map key).length
      ((items.map key).length + 1)) given name) :
    TakesName given (IsFirstNumbered stem (items.length + 1) (items.map key)) (items.map key)
      name := by
  rw [← List.length_map key]
  exact h.takesName (isFirstNumbered_firstFree _ _ _ _) (firstFree_notMem _ _ _)

/-- A line that a draft takes adds its part and leaves the others. -/
theorem Takes.isOf {table : Text} {draft next : Draft} {line : TableLine}
    (h : draft.Takes table line next) : IsOf table draft [line] next := by
  have hsame := isOf_nil table draft
  cases h with
  | column hnew => exact { hsame with columns := .singleton ⟨rfl, rfl, hnew⟩ }
  | @primaryKey partsText options hnone =>
      refine { hsame with primaryKey := ?_ }
      rw [hnone]
      exact .singleton ⟨rfl, partsText, rfl, rfl⟩
  | @index given kind partsText options name hname =>
      exact { hsame with
        indexes := .singleton ⟨given, partsText, rfl, rfl,
          hname.takesName (indexName_isChosen draft _) (indexName_notMem draft _)⟩ }
  | @foreignKey given partsText refTable refPartsText actions name hname =>
      exact { hsame with
        foreignKeys := .singleton ⟨given, partsText, refPartsText, rfl, rfl, rfl,
          hname.takesFirstNumbered⟩ }
  | @check given expression options name hname =>
      exact { hsame with
        checks := .singleton ⟨given, rfl, hname.takesFirstNumbered⟩ }
  | terminator | unrecognised => exact { hsame with }

/-- So do lines one behind the other. -/
theorem isOf_of_addLines {table : Text} {draft last : Draft} {lines : List Text}
    (h : draft.addLines table lines = .ok last) : IsOf table draft (lines.map .ofLine) last := by
  induction lines generalizing draft with
  | nil =>
      obtain rfl : draft = last := Except.ok.inj h
      exact isOf_nil table draft
  | cons line lines ih =>
      obtain ⟨next, htakes, hlast⟩ := addLines_cons_eq_ok.mp h
      exact htakes.isOf.trans (ih hlast)

/-- Of a draft that passes the final check a key part that is no expression names a column. -/
theorem exists_columnName_of_checkColumns {table : Text} {draft : Draft}
    (h : draft.checkColumns table = .ok ()) {owner : KeyOwner} {part : Text}
    (hpart : (owner, part) ∈ draft.keyParts) (hplain : startsWith "(" part = false) :
    ∃ column ∈ draft.columns.map (·.name), columnName? part = some column := by
  rcases unknownColumn?_eq_none.mp (checkColumns_eq_ok.mp h owner part hpart) with hopen | hname
  · rw [hplain] at hopen
    cases hopen
  · exact hname

end Table.Draft

/-! ## Whole definitions -/

/-- The name that a line gives to a part of a sort. -/
def TableLine.given? : NamedPart → TableLine → Option Text
  | .column, column name _ => some name
  | .index, index name _ _ _ => name
  | .foreignKey, foreignKey name _ _ _ _ => name
  | .check, check name _ _ => name
  | _, _ => none

namespace Table

/-- The parts of each key of a table. -/
def partLists (table : Table) : List (List Text) :=
  table.indexes.map (·.parts) ++ table.primaryKey.toList.map (·.parts) ++
    table.foreignKeys.map (·.parts)

theorem exists_mem_keyParts {table : Table} {parts : List Text} {part : Text}
    (hparts : parts ∈ table.partLists) (hpart : part ∈ parts) :
    ∃ owner, (owner, part) ∈ table.draft.keyParts := by
  simp only [partLists, List.mem_append, List.mem_map, Option.mem_toList] at hparts
  obtain (⟨index, hindex, rfl⟩ | ⟨key, hkey, rfl⟩) | ⟨key, hkey, rfl⟩ := hparts
  · exact ⟨_, Draft.mem_keyParts.mpr (.inl ⟨index, hindex, hpart, rfl⟩)⟩
  · exact ⟨_, Draft.mem_keyParts.mpr (.inr (.inl ⟨key, hkey, hpart, rfl⟩))⟩
  · exact ⟨_, Draft.mem_keyParts.mpr (.inr (.inr ⟨key, hkey, hpart, rfl⟩))⟩

/-- A table has the parts of some lines, each with its place and a name of its own, and its keys are
over columns of the table. -/
structure HasParts (table : Table) (lines : List TableLine) : Prop where
  columns : InOrder Column.IsOf [] (lines.filter (· matches .column ..)) table.columns
  primaryKey : InOrder PrimaryKey.IsOf [] (lines.filter (· matches .primaryKey ..))
    table.primaryKey.toList
  indexes : InOrder Index.IsOf [] (lines.filter (· matches .index ..)) table.indexes
  foreignKeys : InOrder (ForeignKey.IsOf table.name) [] (lines.filter (· matches .foreignKey ..))
    table.foreignKeys
  checks : InOrder (CheckConstraint.IsOf table.name) [] (lines.filter (· matches .check ..))
    table.checks
  primaryKey_isSome : table.primaryKey.isSome ↔ ∃ line ∈ lines, line matches .primaryKey ..
  columns_position : table.columns.map (·.position) = List.range table.columns.length
  columnNames_nodup : table.columnNames.Nodup
  indexNames_nodup : (table.indexes.map (·.name)).Nodup
  foreignKeyNames_nodup : (table.foreignKeys.map (·.name)).Nodup
  checkNames_nodup : (table.checks.map (·.name)).Nodup
  exists_columnName : ∀ parts ∈ table.partLists, ∀ part ∈ parts, startsWith "(" part = false →
    ∃ column ∈ table.columnNames, columnName? part = some column

/-- Lines give no name twice to parts of one sort, and no second primary key. -/
structure GivesOnce (lines : List TableLine) : Prop where
  names_nodup : ∀ sort : NamedPart, (lines.filterMap (·.given? sort)).Nodup
  primaryKey_length : (lines.filter (· matches .primaryKey ..)).length ≤ 1

/-- Names that lines of one sort give are names of its parts. -/
theorem nodup_given {β : Type} {IsOf : List β → TableLine → β → Prop} {key : β → Text}
    {sort : NamedPart} {lines : List TableLine} {items : List β} {IsSort : TableLine → Bool}
    (hsort : ∀ line, IsSort line = false → line.given? sort = none)
    (hgiven : ∀ front line item, IsOf front line item →
      line.given? sort = some (key item) ∨ line.given? sort = none)
    (h : InOrder IsOf [] (lines.filter IsSort) items) (hnodup : (items.map key).Nodup) :
    (lines.filterMap (·.given? sort)).Nodup := by
  have hfilter : (lines.filter IsSort).filterMap (·.given? sort) =
      lines.filterMap (·.given? sort) := by
    rw [List.filterMap_filter]
    refine List.filterMap_congr fun line _ => ?_
    cases hline : IsSort line
    · simp [hsort line hline]
    · rfl
  rw [← hfilter]
  exact hnodup.sublist (h.sublist hgiven)

/-- What has its parts was not given one twice. -/
theorem HasParts.givesOnce {table : Table} {lines : List TableLine} (h : table.HasParts lines) :
    GivesOnce lines where
  names_nodup
    | .column => by
        refine nodup_given (fun line => ?_) ?_ h.columns h.columnNames_nodup
        · cases line <;> simp [TableLine.given?]
        · rintro front _ column ⟨rfl, -⟩
          exact .inl rfl
    | .index => by
        refine nodup_given (fun line => ?_) ?_ h.indexes h.indexNames_nodup
        · cases line <;> simp [TableLine.given?]
        · rintro front _ index ⟨given, _, rfl, -, -, hname⟩
          exact hname.imp id (·.1)
    | .foreignKey => by
        refine nodup_given (fun line => ?_) ?_ h.foreignKeys h.foreignKeyNames_nodup
        · cases line <;> simp [TableLine.given?]
        · rintro front _ key ⟨given, _, _, rfl, -, -, -, hname⟩
          exact hname.imp id (·.1)
    | .check => by
        refine nodup_given (fun line => ?_) ?_ h.checks h.checkNames_nodup
        · cases line <;> simp [TableLine.given?]
        · rintro front _ check ⟨given, rfl, -, hname⟩
          exact hname.imp id (·.1)
  primaryKey_length := by
    rw [h.primaryKey.length_eq]
    exact Option.length_toList_le

/-- A table that was read has the parts of the lines between the first one and the one that closes
it, which repeat nothing. -/
theorem hasParts_of_parse {text : Text} {table : Table} (h : parse text = .ok table) :
    ∃ first body closing rest options, definitionLines text = first :: (body ++ closing :: rest) ∧
      (∀ line ∈ body, (TableLine.ofLine line).isPart = true) ∧
      TableLine.ofLine closing = .terminator options ∧
      table.HasParts (body.map .ofLine) ∧ GivesOnce (body.map .ofLine) := by
  have hwell := wellFormed_of_parse h
  obtain ⟨first, _, trailer, hlines, -, hread, hchecked, -⟩ := parse_eq_ok.mp h
  obtain ⟨body, closing, rest, options, rfl, hbody, hadd, hclosing, -⟩ := readBody_eq_ok.mp hread
  have hparts := Draft.isOf_of_addLines hadd
  have hprimaryKey : InOrder PrimaryKey.IsOf [] _ table.primaryKey.toList :=
    hparts.primaryKey.inOrder
  have hhas : table.HasParts (body.map .ofLine) := {
    columns := hparts.columns.inOrder
    primaryKey := hprimaryKey
    indexes := hparts.indexes.inOrder
    foreignKeys := hparts.foreignKeys.inOrder
    checks := hparts.checks.inOrder
    primaryKey_isSome := by
      rw [Option.isSome_iff_ne_none, Ne, ← Option.toList_eq_nil_iff, hprimaryKey.eq_nil_iff,
        List.filter_eq_nil_iff]
      push Not
      rfl
    columns_position := hwell.columns_position
    columnNames_nodup := hwell.columnNames_nodup
    indexNames_nodup := hwell.indexNames_nodup
    foreignKeyNames_nodup := hwell.foreignKeyNames_nodup
    checkNames_nodup := hwell.checkNames_nodup
    exists_columnName := by
      intro parts hmem part hpart hplain
      obtain ⟨owner, howner⟩ := exists_mem_keyParts hmem hpart
      exact Draft.exists_columnName_of_checkColumns hchecked howner hplain }
  exact ⟨first, body, closing, rest, options, hlines, hbody, hclosing, hhas, hhas.givesOnce⟩

/-- A table whose keys stand in front of its columns, most of them without a name. -/
def keysText : Text :=
  "CREATE TABLE t (\n  KEY (a),\n  KEY a_2 (b),\n  KEY (a),\n  KEY ((lower(b))),\n" ++
  "  FOREIGN KEY (a) REFERENCES u (id),\n" ++
  "  CONSTRAINT t_ibfk_3 FOREIGN KEY (b) REFERENCES u (id),\n" ++
  "  FOREIGN KEY (b) REFERENCES v (id),\n  CHECK (a > 0),\n  a int,\n  PRIMARY KEY (b),\n" ++
  "  b varchar(9)\n) ENGINE=InnoDB;"

theorem hasParts_keysText : ∃ table, parse keysText = .ok table ∧
    table.indexes.map (·.name) = ["a".toList, "a_2".toList, "a_3".toList,
      "functional_index".toList] ∧
    table.foreignKeys.map (·.name) = ["t_ibfk_1".toList, "t_ibfk_3".toList, "t_ibfk_4".toList] ∧
    ∃ first body closing rest options,
      definitionLines keysText = first :: (body ++ closing :: rest) ∧
      (∀ line ∈ body, (TableLine.ofLine line).isPart = true) ∧
      TableLine.ofLine closing = .terminator options ∧
      table.HasParts (body.map .ofLine) ∧ GivesOnce (body.map .ofLine) := by
  cases htable : parse keysText with
  | error problem =>
      have hok : (parse keysText).isOk = true := by decide +kernel
      rw [htable] at hok
      cases hok
  | ok table =>
      have hnames : (parse keysText).map (fun table =>
          (table.indexes.map (·.name), table.foreignKeys.map (·.name))) =
        .ok (["a".toList, "a_2".toList, "a_3".toList, "functional_index".toList],
          ["t_ibfk_1".toList, "t_ibfk_3".toList, "t_ibfk_4".toList]) := by decide +kernel
      rw [htable] at hnames
      obtain ⟨hindexes, hforeignKeys⟩ := Prod.mk.inj (Except.ok.inj hnames)
      exact ⟨table, rfl, hindexes, hforeignKeys, hasParts_of_parse htable⟩

end Table

end SchemaMigration
