import SchemaMigration.Proofs.Table.WellFormed

/-!
# Where the parts of a table come from

Each part of a table that was read stands on a line of its definition, with a name given there or
one that was chosen.

## Main Definitions

* `Table.Draft.StandsOn` - each part of a draft is read off one of some lines
* `Table.standsOn_of_parse` - so is each part of a table that was read
* `IsUnbroken` - a name without blanks, as all parts of a table have one
-/

namespace SchemaMigration

open Text

namespace Table

/-- A key has the name that its line gives, or one that is chosen for it. -/
def Draft.IsNamed (given : Option Text) (choose : Draft → Text) (name : Text) : Prop :=
  given = some name ∨ given = none ∧ ∃ draft : Draft, name = choose draft

/-- Each part of a draft is read off one of some lines of a table. -/
structure Draft.StandsOn (table : Text) (lines : List TableLine) (draft : Draft) : Prop where
  column : ∀ column ∈ draft.columns, .column column.name column.definition ∈ lines
  index : ∀ index ∈ draft.indexes, ∃ name partsText,
    .index name index.kind partsText index.options ∈ lines ∧ index.parts = listItems partsText ∧
      IsNamed name (·.indexName index.parts) index.name
  primaryKey : ∀ key ∈ draft.primaryKey, ∃ partsText,
    .primaryKey partsText key.options ∈ lines ∧ key.parts = listItems partsText
  foreignKey : ∀ key ∈ draft.foreignKeys, ∃ name partsText refPartsText,
    .foreignKey name partsText key.refTable refPartsText key.actions ∈ lines ∧
      key.parts = listItems partsText ∧ key.refParts = listItems refPartsText ∧
      IsNamed name (·.foreignKeyName table) key.name
  check : ∀ check ∈ draft.checks, ∃ name,
    .check name check.expression check.options ∈ lines ∧
      IsNamed name (·.checkName table) check.name

namespace Draft

theorem GetsName.isNamed {taken : List Text} {given : Option Text} {choose : Draft → Text}
    {draft : Draft} {name : Text} (h : GetsName taken (choose draft) given name) :
    IsNamed given choose name := by
  rcases h with ⟨hgiven, -⟩ | ⟨hnone, hname⟩
  · exact .inl hgiven
  · exact .inr ⟨hnone, draft, hname⟩

/-- A part that is added stands on its line. -/
theorem StandsOn.takes {table : Text} {lines : List TableLine} {draft next : Draft}
    {line : TableLine} (h : draft.StandsOn table lines) (hline : line ∈ lines)
    (htakes : draft.Takes table line next) : next.StandsOn table lines := by
  cases htakes with
  | column => exact { h with column := forall_mem_concat h.column hline }
  | @primaryKey partsText options hnone =>
      refine { h with primaryKey := ?_ }
      rintro key ⟨⟩
      exact ⟨partsText, hline, rfl⟩
  | @index given kind partsText options name hname =>
      exact { h with
        index := forall_mem_concat h.index ⟨given, partsText, hline, rfl, hname.isNamed⟩ }
  | @foreignKey given partsText refTable refPartsText actions name hname =>
      exact { h with
        foreignKey := forall_mem_concat h.foreignKey
          ⟨given, partsText, refPartsText, hline, rfl, rfl, hname.isNamed⟩ }
  | @check given expression options name hname =>
      exact { h with check := forall_mem_concat h.check ⟨given, hline, hname.isNamed⟩ }
  | terminator | unrecognised => exact h

/-- So do all parts of a body that is read. -/
theorem StandsOn.readBody {table : Text} {known : List TableLine} {draft last : Draft}
    {lines trailer : List Text} (h : draft.StandsOn table known)
    (hlines : ∀ line ∈ lines, .ofLine line ∈ known)
    (hread : Table.readBody table draft lines = .ok (last, trailer)) :
    last.StandsOn table known :=
  readBody_induction (fun line hline _ _ hdraft => hdraft.takes (hlines line hline)) h hread

end Draft

/-- Each part of a table that was read stands on a line of its definition. -/
theorem standsOn_of_parse {text : Text} {table : Table} (h : parse text = .ok table) :
    table.draft.StandsOn table.name ((definitionLines text).map .ofLine) := by
  obtain ⟨first, rest, trailer, hlines, -, hbody, -⟩ := parse_eq_ok.mp h
  have hempty : Draft.empty.StandsOn table.name ((definitionLines text).map .ofLine) := by
    constructor <;> simp [Draft.empty]
  refine hempty.readBody ?_ hbody
  intro line hline
  rw [hlines]
  exact List.mem_map_of_mem (List.mem_cons_of_mem _ hline)

/-- What is known of such a line. -/
theorem exists_reads {text : Text} {found : TableLine}
    (h : found ∈ (definitionLines text).map .ofLine) : ∃ line, '\n' ∉ line ∧ found.Reads line := by
  obtain ⟨raw, hraw, rfl⟩ := List.mem_map.mp h
  refine ⟨_, fun hmem => ?_, TableLine.reads_ofText _⟩
  have hbare := (trim_isInfix _).subset hmem
  have htrimmed := (List.rdropWhile_prefix (· == ',') (trim raw)).subset hbare
  exact newline_notMem_of_mem_lines (List.mem_filter.mp hraw).1 ((trim_isInfix raw).subset htrimmed)

/-! ## Names -/

end Table

/-- A name without blanks. -/
structure IsUnbroken (name : Text) : Prop where
  ne_nil : name ≠ []
  inside : ∀ c ∈ name, isBlank c = false

theorem IsName.isUnbroken {name : Text} (h : IsName name) : IsUnbroken name :=
  ⟨h.ne_nil, fun c hc => (h.inside c hc).1⟩

theorem IsUnbroken.isName_iff {name : Text} (h : IsUnbroken name) : IsName name ↔ '(' ∉ name := by
  constructor
  · exact fun hname hmem => (hname.inside _ hmem).2 rfl
  · intro hopen
    exact ⟨h.ne_nil, fun c hc => ⟨h.inside c hc, fun heq => hopen (heq ▸ hc)⟩⟩

theorem IsUnbroken.newline_notMem {name : Text} (h : IsUnbroken name) : '\n' ∉ name :=
  fun hmem => absurd (h.inside _ hmem) (by decide)

theorem IsUnbroken.append {front back : Text} (h : IsUnbroken front)
    (hback : ∀ c ∈ back, isBlank c = false) : IsUnbroken (front ++ back) := by
  refine ⟨by simp [h.ne_nil], fun c hc => ?_⟩
  rcases List.mem_append.mp hc with hc | hc
  · exact h.inside c hc
  · exact hback c hc

theorem IsUnbroken.numbered {stem : Text} (h : IsUnbroken stem) (n : Nat) :
    IsUnbroken (numbered stem n) := by
  rw [SchemaMigration.numbered, List.append_assoc]
  refine h.append fun c hc => ?_
  rcases List.mem_append.mp hc with hc | hc
  · obtain rfl : c = '_' := by simpa using hc
    decide
  · exact (isBlank_of_mem_ofNat hc).1

namespace Table

variable {text : Text} {table : Table} (h : parse text = .ok table)

include h

theorem isUnbroken_name : IsUnbroken table.name := by
  obtain ⟨first, _, _, -, hname, -⟩ := parse_eq_ok.mp h
  simp only [nameOfFirstLine?, Option.bind_eq_bind, Option.bind_eq_some_iff] at hname
  obtain ⟨_, -, _, -, _, -, _, -, hname⟩ := hname
  split at hname
  · split at hname
    · cases hname
    · rename_i hunbroken
      rw [← Option.some.inj hname]
      simp only [Bool.or_eq_true, not_or, List.isEmpty_iff, Bool.not_eq_true,
        List.any_eq_false] at hunbroken
      exact ⟨hunbroken.1, fun c hc => by simpa using hunbroken.2 c hc⟩
  · cases hname

theorem isUnbroken_columnName {column : Column} (hcolumn : column ∈ table.columns) :
    IsUnbroken column.name := by
  obtain ⟨line, -, hreads⟩ := exists_reads ((standsOn_of_parse h).column column hcolumn)
  generalize column.definition = definition at hreads
  cases hreads with
  | column _ hne hinside => exact ⟨hne, hinside⟩

theorem isUnbroken_indexStem {index : Index} (hindex : index ∈ table.indexes) :
    IsUnbroken (indexStem index.parts) := by
  rw [indexStem]
  cases hname : index.parts.head?.bind columnName? with
  | none => exact ⟨by decide, by decide⟩
  | some name =>
      obtain ⟨part, hpart, hcolumn⟩ := Option.bind_eq_some_iff.mp hname
      have hnamed : name ∈ namedColumns index.parts :=
        mem_namedColumns.mpr ⟨part, List.mem_of_mem_head? hpart, hcolumn⟩
      obtain ⟨column, hmem, rfl⟩ :=
        List.mem_map.mp ((wellFormed_of_parse h).index_columns index hindex hnamed)
      exact isUnbroken_columnName h hmem

theorem isUnbroken_indexName {index : Index} (hindex : index ∈ table.indexes) :
    IsUnbroken index.name := by
  obtain ⟨given, partsText, hline, -, hname⟩ := (standsOn_of_parse h).index index hindex
  rcases hname with rfl | ⟨-, draft, hname⟩
  · obtain ⟨line, -, hreads⟩ := exists_reads hline
    exact (hreads.of_index.1 _ rfl).1.1.isUnbroken
  · have hstem := isUnbroken_indexStem h hindex
    rw [hname]
    rcases indexName_cases draft index.parts with hchosen | ⟨n, hchosen⟩
    · simpa only [hchosen] using hstem
    · simpa only [hchosen] using hstem.numbered n

/-- A name that is chosen behind the name of the table. -/
theorem isUnbroken_firstFree {suffix : Text} (hsuffix : ∀ c ∈ suffix, isBlank c = false)
    (taken : List Text) (bound n : Nat) :
    IsUnbroken (firstFree (table.name ++ suffix) taken bound n) := by
  obtain ⟨m, hchosen⟩ := exists_firstFree (table.name ++ suffix) taken bound n
  rw [hchosen]
  exact ((isUnbroken_name h).append hsuffix).numbered m

theorem isUnbroken_foreignKeyName {key : ForeignKey} (hkey : key ∈ table.foreignKeys) :
    IsUnbroken key.name := by
  obtain ⟨given, _, _, hline, -, -, hname⟩ := (standsOn_of_parse h).foreignKey key hkey
  rcases hname with rfl | ⟨-, draft, hname⟩
  · obtain ⟨line, -, hreads⟩ := exists_reads hline
    exact (hreads.of_foreignKey.1 _ rfl).1.isUnbroken
  · rw [hname]
    exact isUnbroken_firstFree h (by decide) _ _ _

theorem isUnbroken_checkName {check : CheckConstraint} (hcheck : check ∈ table.checks) :
    IsUnbroken check.name := by
  obtain ⟨given, hline, hname⟩ := (standsOn_of_parse h).check check hcheck
  rcases hname with rfl | ⟨-, draft, hname⟩
  · obtain ⟨line, -, hreads⟩ := exists_reads hline
    exact (hreads.of_check.1 _ rfl).1.isUnbroken
  · rw [hname]
    exact isUnbroken_firstFree h (by decide) _ _ _

end Table

end SchemaMigration
