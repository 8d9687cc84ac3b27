import SchemaMigration.Proofs.Table.Counter
import SchemaMigration.Proofs.Table.Origin

/-!
# Parts on one line

A table is read line by line, so none of its parts has a newline in it, however the definition was
laid out. The options may stand on several lines, which are joined by spaces.

## Main Definitions

* `IsOneLine` - a text without a newline
* `Table.HasOneLineParts` - each part of a table, as it is described, is a text without a newline
* `Table.hasOneLineParts_of_parse` - that is so for every table that was read
-/

namespace SchemaMigration

open Text

/-- A text without a newline. -/
def IsOneLine (text : Text) : Prop := '\n' ∉ text

instance (text : Text) : Decidable (IsOneLine text) := inferInstanceAs (Decidable ('\n' ∉ text))

@[simp] theorem isOneLine_nil : IsOneLine [] := by simp [IsOneLine]

@[simp] theorem isOneLine_append {front back : Text} :
    IsOneLine (front ++ back) ↔ IsOneLine front ∧ IsOneLine back := by
  simp [IsOneLine]

@[simp] theorem isOneLine_spaced {text : Text} : IsOneLine (spaced text) ↔ IsOneLine text := by
  cases text <;> simp [spaced, IsOneLine]

theorem IsOneLine.of_subset {text part : Text} (h : IsOneLine text) (hpart : part ⊆ text) :
    IsOneLine part :=
  fun hmem => h (hpart hmem)

protected theorem IsOneLine.trim {text : Text} (h : IsOneLine text) : IsOneLine (trim text) :=
  h.of_subset (trim_isInfix text).subset

theorem isOneLine_join {separator : Text} (hseparator : IsOneLine separator) {items : List Text}
    (h : ∀ item ∈ items, IsOneLine item) : IsOneLine (join separator items) := by
  induction items with
  | nil => exact isOneLine_nil
  | cons item items ih =>
      obtain ⟨hitem, hitems⟩ := List.forall_mem_cons.mp h
      cases items with
      | nil => exact hitem
      | cons next items => simpa [join, hitem, hseparator] using ih hitems

theorem isOneLine_partsText {parts : List Text} (h : ∀ part ∈ parts, IsOneLine part) :
    IsOneLine (partsText parts) := by
  simp only [partsText, isOneLine_append]
  exact ⟨⟨by decide, isOneLine_join (by decide) h⟩, by decide⟩

/-! ## Parts of texts -/

/-- The items of a list that stands on one line do so themselves. -/
theorem IsOneLine.listItems {text : Text} (h : IsOneLine text) :
    ∀ item ∈ listItems text, IsOneLine item := by
  intro item hitem
  obtain ⟨piece, hpiece, rfl⟩ := List.mem_map.mp (List.mem_filter.mp hitem).1
  exact (h.of_subset (subset_of_mem_listPieces hpiece)).trim

theorem Table.isOneLine_optionsText {options : List Text} (h : ∀ line ∈ options, IsOneLine line) :
    IsOneLine (Table.optionsText options) := by
  have hjoined : IsOneLine (trim (join " " (options.filter (! ·.isEmpty)))) :=
    (isOneLine_join (by decide) fun line hline => h line (List.mem_filter.mp hline).1).trim
  rw [Table.optionsText]
  split
  · refine hjoined.of_subset (List.Subset.trans ?_ (List.dropLast_subset _))
    exact (List.rdropWhile_prefix isBlank _).subset
  · exact hjoined

theorem splitTrailer_subset (trailer : List Text) : (Table.splitTrailer trailer).1 ⊆ trailer := by
  induction trailer with
  | nil => simp [Table.splitTrailer]
  | cons line rest ih =>
      rw [Table.splitTrailer]
      split
      · simp
      · exact List.cons_subset_cons line ih

/-! ## Parts as they are described -/

theorem Index.isOneLine_describe {index : Index} (hparts : ∀ part ∈ index.parts, IsOneLine part)
    (hoptions : IsOneLine index.options) : IsOneLine index.describe := by
  have hkeyword : IsOneLine index.kind.keyword := by
    cases index.kind <;> decide
  simp only [describe, isOneLine_append, isOneLine_spaced]
  exact ⟨⟨⟨hkeyword, by decide⟩, isOneLine_partsText hparts⟩, hoptions⟩

theorem PrimaryKey.isOneLine_describe {key : PrimaryKey}
    (hparts : ∀ part ∈ key.parts, IsOneLine part) (hoptions : IsOneLine key.options) :
    IsOneLine key.describe := by
  simp only [describe, isOneLine_append, isOneLine_spaced]
  exact ⟨isOneLine_partsText hparts, hoptions⟩

theorem ForeignKey.isOneLine_describe {key : ForeignKey}
    (hparts : ∀ part ∈ key.parts, IsOneLine part) (htable : IsOneLine key.refTable)
    (hrefParts : ∀ part ∈ key.refParts, IsOneLine part) (hactions : IsOneLine key.actions) :
    IsOneLine key.describe := by
  have hdescribe : key.describe = partsText key.parts ++ " REFERENCES ".toList ++ key.refTable ++
    " ".toList ++ partsText key.refParts ++ spaced key.actions := rfl
  simp only [hdescribe, isOneLine_append, isOneLine_spaced]
  exact ⟨⟨⟨⟨⟨isOneLine_partsText hparts, by decide⟩, htable⟩, by decide⟩,
    isOneLine_partsText hrefParts⟩, hactions⟩

theorem CheckConstraint.isOneLine_describe {check : CheckConstraint}
    (hexpression : IsOneLine check.expression) (hoptions : IsOneLine check.options) :
    IsOneLine check.describe := by
  have hdescribe : check.describe = "CHECK (".toList ++ check.expression ++ ")".toList ++
    spaced check.options := rfl
  simp only [hdescribe, isOneLine_append, isOneLine_spaced]
  exact ⟨⟨⟨by decide, hexpression⟩, by decide⟩, hoptions⟩

/-! ## Tables -/

/-- Each part of a table, as it is described, is a text without a newline. -/
structure Table.HasOneLineParts (table : Table) : Prop where
  name : IsOneLine table.name
  column : ∀ column ∈ table.columns,
    IsOneLine column.name ∧ IsOneLine column.definition
  index : ∀ index ∈ table.indexes,
    IsOneLine index.name ∧ IsOneLine index.describe
  primaryKey : ∀ key ∈ table.primaryKey, IsOneLine key.describe
  foreignKey : ∀ key ∈ table.foreignKeys,
    IsOneLine key.name ∧ IsOneLine key.describe
  check : ∀ check ∈ table.checks,
    IsOneLine check.name ∧ IsOneLine check.describe
  options : IsOneLine table.options

/-- Every text that is kept of a line of a definition stands on that line. -/
theorem Table.isOneLine_texts {text : Text} {found : TableLine}
    (h : found ∈ (definitionLines text).map .ofLine) :
    ∀ part ∈ found.texts, IsOneLine part := by
  obtain ⟨line, hline, hreads⟩ := exists_reads h
  exact hreads.newline_notMem hline

/-- The lines from the closing parenthesis on are lines of the definition. -/
theorem Table.isOneLine_options {text : Text} {table : Table} (h : parse text = .ok table) :
    IsOneLine table.options := by
  obtain ⟨first, rest, trailer, hlines, -, hbody, -, hoptions, -⟩ := parse_eq_ok.mp h
  obtain ⟨body, closing, behind, options, rfl, -, -, hclosing, rfl⟩ := readBody_eq_ok.mp hbody
  rw [hoptions]
  refine isOneLine_optionsText fun line hline => ?_
  rcases List.mem_cons.mp (splitTrailer_subset _ hline) with rfl | hline
  · have hmem : TableLine.terminator line ∈ (definitionLines text).map .ofLine := by
      rw [← hclosing, hlines]
      exact List.mem_map_of_mem (by simp)
    exact isOneLine_texts hmem _ (by simp [TableLine.texts])
  · obtain ⟨raw, hraw, rfl⟩ := List.mem_map.mp hline
    have hmem : raw ∈ definitionLines text := by simp [hlines, hraw]
    have honeLine : IsOneLine raw := newline_notMem_of_mem_lines (List.mem_filter.mp hmem).1
    exact honeLine.trim

/-- A part stands on one line of the definition, and a name that was chosen has no blanks. -/
theorem Table.hasOneLineParts_of_parse {text : Text} {table : Table} (h : parse text = .ok table) :
    table.HasOneLineParts := by
  have hstands := standsOn_of_parse h
  constructor
  case name => exact (isUnbroken_name h).newline_notMem
  case column =>
    intro column hcolumn
    have htexts := isOneLine_texts (hstands.column column hcolumn)
    simpa [TableLine.texts] using htexts
  case index =>
    intro index hindex
    obtain ⟨_, partsText, hline, hparts, -⟩ := hstands.index index hindex
    have htexts := isOneLine_texts hline
    have hlist : IsOneLine partsText := htexts _ (by simp [TableLine.texts])
    have hoptions : IsOneLine index.options := htexts _ (by simp [TableLine.texts])
    exact ⟨(isUnbroken_indexName h hindex).newline_notMem,
      Index.isOneLine_describe (hparts ▸ hlist.listItems) hoptions⟩
  case primaryKey =>
    intro key hkey
    obtain ⟨partsText, hline, hparts⟩ := hstands.primaryKey key hkey
    have htexts := isOneLine_texts hline
    have hlist : IsOneLine partsText := htexts _ (by simp [TableLine.texts])
    have hoptions : IsOneLine key.options := htexts _ (by simp [TableLine.texts])
    exact PrimaryKey.isOneLine_describe (hparts ▸ hlist.listItems) hoptions
  case foreignKey =>
    intro key hkey
    obtain ⟨_, list, refList, hline, hparts, hrefParts, -⟩ := hstands.foreignKey key hkey
    have htexts := isOneLine_texts hline
    have hlist : IsOneLine list := htexts _ (by simp [TableLine.texts])
    have htable : IsOneLine key.refTable := htexts _ (by simp [TableLine.texts])
    have hrefList : IsOneLine refList := htexts _ (by simp [TableLine.texts])
    have hactions : IsOneLine key.actions := htexts _ (by simp [TableLine.texts])
    exact ⟨(isUnbroken_foreignKeyName h hkey).newline_notMem,
      ForeignKey.isOneLine_describe (hparts ▸ hlist.listItems) htable
        (hrefParts ▸ hrefList.listItems) hactions⟩
  case check =>
    intro check hcheck
    obtain ⟨_, hline, -⟩ := hstands.check check hcheck
    have htexts := isOneLine_texts hline
    have hexpression : IsOneLine check.expression := htexts _ (by simp [TableLine.texts])
    have hoptions : IsOneLine check.options := htexts _ (by simp [TableLine.texts])
    exact ⟨(isUnbroken_checkName h hcheck).newline_notMem,
      CheckConstraint.isOneLine_describe hexpression hoptions⟩
  case options => exact isOneLine_options h

/-- The options and the partitioning clause are parts of what stands behind the table. -/
theorem Table.HasOneLineParts.baseOptions {table : Table} (h : table.HasOneLineParts) :
    IsOneLine table.baseOptions ∧ IsOneLine table.partitioning := by
  rw [Table.baseOptions, Table.partitioning]
  cases hsplit : splitAtMatch? opensPartitioning table.options with
  | none => exact ⟨h.options.trim, isOneLine_nil⟩
  | some parts =>
      obtain ⟨base, clause⟩ := parts
      have hoptions := h.options
      rw [append_of_splitAtMatchFrom? hsplit, isOneLine_append] at hoptions
      exact ⟨hoptions.1.trim, hoptions.2.trim⟩

end SchemaMigration
