import SchemaMigration.Table.Parser

/-!
# What a line does to a table

Reading a table goes on line by line from one draft to the next. Told once is what a line can do to
a draft, when a whole body is read and when a whole definition is; what holds of every table follows
from that.

## Main Definitions

* `TableLine.ofLine` - what a line reads as, with a comma behind it or none
* `Table.Draft.GetsName` - which name a part gets that is added
* `Table.Draft.Takes` - which draft comes of another one and a line
* `Table.Draft.add_eq_ok` - reading a line is just that
* `Table.Draft.checkColumns_eq_ok` - when the keys of a draft are over its columns
* `Table.readBody_eq_ok`, `Table.parse_eq_ok` - when a body and a table are read, and as what

## Design Notes

A line of each sort changes one list of the draft and depends on that list only. `Takes` has a
constructor for each sort, so a proof about all lines is one case for each, with the refused ones
gone.
-/

namespace SchemaMigration

open Text

/-! ## Readers one behind the other -/

/-- A reader that goes on behind another returns something only if both do. -/
theorem bind_eq_ok {ε α β : Type} {first : Except ε α} {next : α → Except ε β} {b : β}
    (h : (do next (← first)) = .ok b) : ∃ a, first = .ok a ∧ next a = .ok b := by
  cases first with
  | error e => cases h
  | ok a => exact ⟨a, rfl, h⟩

theorem bind_of_eq_ok {ε α β : Type} {first : Except ε α} {a : α} (h : first = .ok a)
    (next : α → Except ε β) : first.bind next = next a := by
  rw [h]
  rfl

/-! ## Lines -/

namespace TableLine

/-- What a line of a definition reads as, with a comma behind it or none. -/
def ofLine (line : Text) : TableLine := ofText (dropTrailing ',' (trim line))

/-- Whether a line defines a part of a table. -/
def isPart : TableLine → Bool
  | terminator _ | unrecognised _ => false
  | _ => true

theorem isPart_cases (line : TableLine) : line.isPart = true ∨
    (∃ options, line = terminator options) ∨ ∃ text, line = unrecognised text := by
  cases line <;> simp [isPart]

end TableLine

namespace Table

/-! ## One line -/

namespace Draft

/-- A part gets the name that its line gives, which no part of its sort has yet, or one to fall back
on if the line gives none. -/
def GetsName (taken : List Text) (fallback : Text) (given : Option Text) (name : Text) : Prop :=
  given = some name ∧ name ∉ taken ∨ given = none ∧ name = fallback

theorem chooseName_eq_ok {part : NamedPart} {table : Text} {taken : List Text}
    {fallback name : Text} {given : Option Text} :
    chooseName part table taken fallback given = .ok name ↔ GetsName taken fallback given name := by
  cases given with
  | none =>
      rw [chooseName, Except.ok.injEq]
      simp [GetsName, eq_comm]
  | some other =>
      rw [chooseName]
      split
      · rename_i htaken
        simp only [GetsName, Option.some.injEq, reduceCtorEq, false_and, or_false, false_iff]
        rintro ⟨rfl, hnew⟩
        exact hnew htaken
      · rename_i hnew
        simp only [GetsName, Option.some.injEq, reduceCtorEq, false_and, or_false, Except.ok.injEq]
        exact ⟨fun heq => ⟨heq, heq ▸ hnew⟩, And.left⟩

/-- The name is new, if the one to fall back on is. -/
theorem GetsName.notMem {taken : List Text} {fallback name : Text} {given : Option Text}
    (h : GetsName taken fallback given name) (hfallback : fallback ∉ taken) : name ∉ taken := by
  rcases h with ⟨-, hnew⟩ | ⟨-, rfl⟩
  · exact hnew
  · exact hfallback

/-- The draft that comes of another one and a line: behind the parts of the line's sort stands that
of the line, and a terminator or an unrecognised line adds nothing. -/
inductive Takes (table : Text) (draft : Draft) : TableLine → Draft → Prop
  | column {name definition : Text} (hnew : name ∉ draft.columns.map (·.name)) :
      Takes table draft (.column name definition)
        { draft with columns := draft.columns ++ [⟨name, definition, draft.columns.length⟩] }
  | primaryKey {partsText options : Text} (hnone : draft.primaryKey = none) :
      Takes table draft (.primaryKey partsText options)
        { draft with primaryKey := some ⟨listItems partsText, options⟩ }
  | index {given : Option Text} {kind : IndexKind} {partsText options name : Text}
      (hname : GetsName (draft.indexes.map (·.name)) (draft.indexName (listItems partsText))
        given name) :
      Takes table draft (.index given kind partsText options)
        { draft with indexes := draft.indexes ++ [⟨name, kind, listItems partsText, options⟩] }
  | foreignKey {given : Option Text} {partsText refTable refPartsText actions name : Text}
      (hname : GetsName (draft.foreignKeys.map (·.name)) (draft.foreignKeyName table) given name) :
      Takes table draft (.foreignKey given partsText refTable refPartsText actions)
        { draft with foreignKeys := draft.foreignKeys ++
            [⟨name, listItems partsText, refTable, listItems refPartsText, actions⟩] }
  | check {given : Option Text} {expression options name : Text}
      (hname : GetsName (draft.checks.map (·.name)) (draft.checkName table) given name) :
      Takes table draft (.check given expression options)
        { draft with checks := draft.checks ++ [⟨name, expression, options⟩] }
  | terminator (options : Text) : Takes table draft (.terminator options) draft
  | unrecognised (text : Text) : Takes table draft (.unrecognised text) draft

/-- Reading a line comes to that draft, or is refused. -/
theorem add_eq_ok {table : Text} {draft next : Draft} {line : TableLine} :
    draft.add table line = .ok next ↔ draft.Takes table line next := by
  constructor
  · intro h
    cases line with
    | column name definition =>
        obtain ⟨chosen, hchosen, hnext⟩ := bind_eq_ok h
        obtain rfl := Except.ok.inj hnext
        rcases chooseName_eq_ok.mp hchosen with ⟨hname, hnew⟩ | ⟨hnone, -⟩
        · obtain rfl := Option.some.inj hname
          exact .column hnew
        · cases hnone
    | primaryKey partsText options =>
        rw [add] at h
        split at h
        · cases h
        · rename_i hnone
          obtain rfl := Except.ok.inj h
          exact .primaryKey hnone
    | index given kind partsText options =>
        obtain ⟨name, hname, hnext⟩ := bind_eq_ok h
        obtain rfl := Except.ok.inj hnext
        exact .index (chooseName_eq_ok.mp hname)
    | foreignKey given partsText refTable refPartsText actions =>
        obtain ⟨name, hname, hnext⟩ := bind_eq_ok h
        obtain rfl := Except.ok.inj hnext
        exact .foreignKey (chooseName_eq_ok.mp hname)
    | check given expression options =>
        obtain ⟨name, hname, hnext⟩ := bind_eq_ok h
        obtain rfl := Except.ok.inj hnext
        exact .check (chooseName_eq_ok.mp hname)
    | terminator options =>
        obtain rfl := Except.ok.inj h
        exact .terminator options
    | unrecognised text =>
        obtain rfl := Except.ok.inj h
        exact .unrecognised text
  · intro h
    cases h with
    | column hnew => exact bind_of_eq_ok (chooseName_eq_ok.mpr (.inl ⟨rfl, hnew⟩)) _
    | primaryKey hnone => simp only [add, hnone]
    | index hname | foreignKey hname | check hname =>
        exact bind_of_eq_ok (chooseName_eq_ok.mpr hname) _
    | terminator | unrecognised => rfl

/-! ## The keys of a draft -/

theorem mem_keyParts {draft : Draft} {owner : KeyOwner} {part : Text} :
    (owner, part) ∈ draft.keyParts ↔
      (∃ index ∈ draft.indexes, part ∈ index.parts ∧ owner = .index index.name) ∨
      (∃ key ∈ draft.primaryKey, part ∈ key.parts ∧ owner = .primaryKey) ∨
      ∃ key ∈ draft.foreignKeys, part ∈ key.parts ∧ owner = .foreignKey key.name := by
  have hmem (key : KeyOwner) (parts : List Text) :
      (owner, part) ∈ parts.map (fun part => (key, part)) ↔ part ∈ parts ∧ owner = key := by
    rw [List.mem_map]
    constructor
    · rintro ⟨_, hpart, rfl, rfl⟩
      exact ⟨hpart, rfl⟩
    · rintro ⟨hpart, rfl⟩
      exact ⟨part, hpart, rfl⟩
  simp only [keyParts, List.mem_append, List.mem_flatMap, hmem, Option.mem_toList, Option.mem_def,
    or_assoc]

/-- A key part that is not refused is an expression or names a column. -/
theorem unknownColumn?_eq_none {draft : Draft} {part : Text} :
    draft.unknownColumn? part = none ↔ startsWith "(" part = true ∨
      ∃ column ∈ draft.columns.map (·.name), columnName? part = some column := by
  rw [unknownColumn?]
  split
  · rename_i hopen
    exact iff_of_true rfl (.inl hopen)
  · rename_i hopen
    rw [or_iff_right hopen]
    cases columnName? part with
    | none => simp
    | some name => simp

/-- A draft passes the final check if no part of its keys is refused. -/
theorem checkColumns_eq_ok {table : Text} {draft : Draft} : draft.checkColumns table = .ok () ↔
    ∀ owner part, (owner, part) ∈ draft.keyParts → draft.unknownColumn? part = none := by
  rw [checkColumns]
  split
  · rename_i hsome
    refine iff_of_false (by simp) fun hpassed => ?_
    obtain ⟨⟨owner, part⟩, hpart, hfound⟩ := List.exists_of_findSome?_eq_some hsome
    simp [hpassed owner part hpart] at hfound
  · rename_i hnone
    refine iff_of_true rfl fun owner part hpart => ?_
    exact Option.map_eq_none_iff.mp (List.findSome?_eq_none_iff.mp hnone (owner, part) hpart)

end Draft

/-! ## The body -/

/-- The columns and keys of a table. -/
def draft (table : Table) : Draft :=
  ⟨table.columns, table.indexes, table.primaryKey, table.foreignKeys, table.checks⟩

/-- The draft behind lines that define parts. -/
def Draft.addLines (table : Text) (draft : Draft) (lines : List Text) : Except TableError Draft :=
  lines.foldlM (fun draft line => draft.add table (.ofLine line)) draft

theorem Draft.addLines_cons (table : Text) (draft : Draft) (line : Text) (rest : List Text) :
    draft.addLines table (line :: rest) =
      (draft.add table (.ofLine line)).bind fun next => next.addLines table rest := rfl

/-- Lines are taken one behind the other. -/
theorem Draft.addLines_cons_eq_ok {table line : Text} {draft last : Draft} {rest : List Text} :
    draft.addLines table (line :: rest) = .ok last ↔
      ∃ next, draft.Takes table (.ofLine line) next ∧ next.addLines table rest = .ok last := by
  rw [addLines_cons]
  constructor
  · intro h
    obtain ⟨next, hadd, hrest⟩ := bind_eq_ok h
    exact ⟨next, add_eq_ok.mp hadd, hrest⟩
  · rintro ⟨next, htakes, hrest⟩
    rw [add_eq_ok.mpr htakes]
    exact hrest

/-- What every line preserves holds of the draft behind them. -/
theorem Draft.addLines_induction {P : Draft → Prop} {table : Text} {draft last : Draft}
    {lines : List Text}
    (hadd : ∀ line ∈ lines, ∀ draft next, P draft → draft.Takes table (.ofLine line) next → P next)
    (hdraft : P draft) (h : draft.addLines table lines = .ok last) : P last := by
  induction lines generalizing draft with
  | nil =>
      obtain rfl : draft = last := Except.ok.inj h
      exact hdraft
  | cons line rest ih =>
      obtain ⟨hline, hrest⟩ := List.forall_mem_cons.mp hadd
      obtain ⟨next, htakes, hlast⟩ := addLines_cons_eq_ok.mp h
      exact ih hrest (hline draft next hdraft htakes) hlast

theorem readBody_cons_of_isPart {table line : Text} (h : (TableLine.ofLine line).isPart = true)
    (draft : Draft) (rest : List Text) : readBody table draft (line :: rest) =
      (draft.add table (.ofLine line)).bind fun next => readBody table next rest := by
  rw [readBody, ← TableLine.ofLine]
  cases hline : TableLine.ofLine line with
  | terminator _ | unrecognised _ => simp [hline, TableLine.isPart] at h
  | _ => rfl

/-- A body is read up to the line that closes it; behind it are the lines of the options. -/
theorem readBody_eq_ok {table : Text} {draft last : Draft} {lines trailer : List Text} :
    readBody table draft lines = .ok (last, trailer) ↔ ∃ body closing rest options,
      lines = body ++ closing :: rest ∧ (∀ line ∈ body, (TableLine.ofLine line).isPart = true) ∧
        draft.addLines table body = .ok last ∧ TableLine.ofLine closing = .terminator options ∧
          trailer = options :: rest.map trim := by
  constructor
  · intro h
    induction lines generalizing draft with
    | nil => cases h
    | cons line lines ih =>
        rcases (TableLine.ofLine line).isPart_cases with hpart | ⟨options, hline⟩ | ⟨text, hline⟩
        · rw [readBody_cons_of_isPart hpart] at h
          obtain ⟨next, hadd, hnext⟩ := bind_eq_ok h
          obtain ⟨body, closing, rest, options, rfl, hbody, hlast, hclosing, htrailer⟩ := ih hnext
          refine ⟨line :: body, closing, rest, options, rfl,
            List.forall_mem_cons.mpr ⟨hpart, hbody⟩, ?_, hclosing, htrailer⟩
          rw [Draft.addLines_cons, hadd]
          exact hlast
        · rw [readBody, ← TableLine.ofLine, hline] at h
          obtain ⟨rfl, rfl⟩ := Prod.mk.inj (Except.ok.inj h)
          exact ⟨[], line, lines, options, rfl, by simp, rfl, hline, rfl⟩
        · rw [readBody, ← TableLine.ofLine, hline] at h
          cases h
  · rintro ⟨body, closing, rest, options, rfl, hbody, hlast, hclosing, rfl⟩
    induction body generalizing draft with
    | nil =>
        obtain rfl : draft = last := Except.ok.inj hlast
        rw [List.nil_append, readBody, ← TableLine.ofLine, hclosing]
    | cons line body ih =>
        obtain ⟨hpart, hrest⟩ := List.forall_mem_cons.mp hbody
        rw [Draft.addLines_cons] at hlast
        obtain ⟨next, hadd, hnext⟩ := bind_eq_ok hlast
        rw [List.cons_append, readBody_cons_of_isPart hpart, hadd]
        exact ih hrest hnext

/-- What every line up to the closing parenthesis preserves holds of the draft behind them. -/
theorem readBody_induction {P : Draft → Prop} {table : Text} {draft last : Draft}
    {lines trailer : List Text}
    (hadd : ∀ line ∈ lines, ∀ draft next, P draft → draft.Takes table (.ofLine line) next → P next)
    (hdraft : P draft) (hread : readBody table draft lines = .ok (last, trailer)) : P last := by
  obtain ⟨body, closing, rest, _, rfl, -, hlast, -⟩ := readBody_eq_ok.mp hread
  exact Draft.addLines_induction (fun line hline => hadd line (List.mem_append_left _ hline))
    hdraft hlast

/-! ## The definition -/

/-- What reading a table comes to: a first line with its name, a body whose keys have columns, and
option lines. -/
theorem parse_eq_ok {text : Text} {table : Table} : parse text = .ok table ↔
    ∃ first rest trailer, definitionLines text = first :: rest ∧
      nameOfFirstLine? first = some table.name ∧
      readBody table.name .empty rest = .ok (table.draft, trailer) ∧
      table.draft.checkColumns table.name = .ok () ∧
      table.options = optionsText (splitTrailer trailer).1 ∧ table.definition = trim text := by
  constructor
  · intro h
    rw [parse] at h
    split at h
    · cases h
    · rename_i first rest hlines
      split at h
      · cases h
      · rename_i name hname
        obtain ⟨⟨draft, trailer⟩, hbody, h⟩ := bind_eq_ok h
        obtain ⟨⟨⟩, hcolumns, h⟩ := bind_eq_ok h
        obtain rfl := Except.ok.inj h
        exact ⟨first, rest, trailer, hlines, hname, hbody, hcolumns, rfl, rfl⟩
  · rintro ⟨first, rest, trailer, hlines, hname, hbody, hcolumns, hoptions, hdefinition⟩
    simp only [parse, hlines, hname, hbody, bind, Except.bind, hcolumns, ← hoptions, ← hdefinition]
    rfl

end Table

end SchemaMigration
