import SchemaMigration.Proofs.Text.Piece
import SchemaMigration.Table.KeyPart

/-!
# Key parts and the columns that they name

A key part names a column by an identifier, and an identifier that is read as a key part
names itself. So the names that were read off one key may be written into another.

## Main Definitions

* `IsIdentifier` - the texts that a key part may name a column by
* `columnName?_self` - a name that was read off a key part names itself
* `leadingColumns_of_named` - a key written with such names starts with all of them
-/

namespace SchemaMigration

open Text

/-! ## Identifiers -/

/-- The texts that a key part may name a column by: between backquotes, or without blanks,
opening parentheses and backquotes. -/
inductive IsIdentifier : Text → Prop
  | bare {name : Text} (hne : name ≠ [])
      (hinside : ∀ c ∈ name, isBlank c = false ∧ c ≠ '(' ∧ c ≠ '\x60') : IsIdentifier name
  | quoted {inner : Text} (hne : inner ≠ []) (hinside : '\x60' ∉ inner) :
      IsIdentifier ('\x60' :: inner ++ ['\x60'])

/-- What is read as an identifier is one, and stands in front of the rest. -/
theorem columnIdentifier?_eq_some {text name rest : Text}
    (h : columnIdentifier? text = some (name, rest)) :
    IsIdentifier name ∧ text = name ++ rest := by
  unfold columnIdentifier? at h
  split at h
  · rename_i text
    have hsplit := List.takeWhile_append_dropWhile (p := (· != '\x60')) (l := text)
    have hinside : '\x60' ∉ text.takeWhile (· != '\x60') := by
      intro hmem
      simpa using List.mem_takeWhile_imp hmem
    have hhead := List.head_dropWhile_not (· != '\x60') (l := text)
    cases htake : text.takeWhile (· != '\x60') with
    | nil => simp [htake] at h
    | cons first inner =>
        cases hdrop : text.dropWhile (· != '\x60') with
        | nil => simp [htake, hdrop] at h
        | cons quote back =>
            simp only [htake, hdrop, Option.some.injEq, Prod.mk.injEq] at h
            obtain ⟨rfl, rfl⟩ := h
            obtain rfl : quote = '\x60' := by simpa [hdrop] using hhead
            rw [htake] at hinside hsplit
            rw [hdrop] at hsplit
            refine ⟨IsIdentifier.quoted (by simp) hinside, ?_⟩
            rw [← hsplit]
            simp
  · obtain ⟨hne, hinside, rfl, -⟩ := stretch_eq_some.mp h
    refine ⟨IsIdentifier.bare hne fun c hc => ?_, rfl⟩
    simpa [and_assoc] using hinside c hc

/-- An identifier in quotes is read up to the quote that closes it. -/
theorem columnIdentifier?_quoted {inner : Text} (hne : inner ≠ []) (hinside : '\x60' ∉ inner)
    (rest : Text) : columnIdentifier? ('\x60' :: inner ++ '\x60' :: rest)
      = some ('\x60' :: inner ++ ['\x60'], rest) := by
  have hall : ∀ c ∈ inner, (c != '\x60') = true := by
    intro c hc
    simp only [bne_iff_ne]
    rintro rfl
    exact hinside hc
  obtain ⟨first, inner, rfl⟩ := List.exists_cons_of_ne_nil hne
  have htake : (first :: inner ++ '\x60' :: rest).takeWhile (· != '\x60') = first :: inner := by
    rw [List.takeWhile_append_of_pos hall]
    simp
  have hdrop : (first :: inner ++ '\x60' :: rest).dropWhile (· != '\x60') = '\x60' :: rest := by
    rw [List.dropWhile_append_of_pos hall]
    simp
  simp only [List.cons_append] at htake hdrop
  simp [columnIdentifier?, htake, hdrop]

/-- An identifier is read as a whole. -/
theorem columnIdentifier?_self {name : Text} (h : IsIdentifier name) :
    columnIdentifier? name = some (name, []) := by
  cases h with
  | quoted hne hinside => exact columnIdentifier?_quoted hne hinside []
  | bare hne hinside =>
      have hall : ∀ c ∈ name, (! isBlank c && c != '(' && c != '\x60') = true := by
        intro c hc
        simpa [and_assoc] using hinside c hc
      unfold columnIdentifier?
      split
      · exact absurd rfl (hinside '\x60' (by simp)).2.2
      · simp only [List.takeWhile_eq_self_iff.mpr hall, List.dropWhile_eq_nil_iff.mpr hall]
        simp [hne]

/-- An identifier has no blanks at its ends. -/
theorem trim_identifier {name : Text} (h : IsIdentifier name) : trim name = name := by
  cases h with
  | bare hne hinside =>
      refine trim_eq_self ?_ ?_
      · intro c hc
        exact (hinside c (List.mem_of_mem_head? hc)).1
      · intro c hc
        exact (hinside c (List.mem_of_mem_getLast? hc)).1
  | quoted hne hinside =>
      refine trim_eq_self ?_ ?_
      · intro c hc
        obtain rfl : '\x60' = c := by simpa using hc
        decide
      · intro c hc
        rw [List.getLast?_concat] at hc
        obtain rfl : '\x60' = c := by simpa using hc
        decide

/-- An identifier names itself. -/
theorem columnName?_of_isIdentifier {name : Text} (h : IsIdentifier name) :
    columnName? name = some name := by
  simp [columnName?, trim_identifier h, columnIdentifier?_self h, keyLength?, keyOrder?,
    trimLeft, after?, blanks?]

/-- A key part names its column by an identifier. -/
theorem isIdentifier_of_columnName? {part name : Text} (h : columnName? part = some name) :
    IsIdentifier name := by
  simp only [columnName?, Option.bind_eq_bind, Option.bind_eq_some_iff] at h
  obtain ⟨⟨found, rest⟩, hfound, h⟩ := h
  split at h
  · obtain rfl := Option.some.inj h
    exact (columnIdentifier?_eq_some hfound).1
  · cases h

/-- What starts with a parenthesis is an expression. -/
theorem columnName?_eq_none_of_startsWith {part : Text} (h : startsWith "(" part = true) :
    columnName? part = none := by
  obtain ⟨text, rfl⟩ : ∃ text, part = '(' :: text := by
    obtain ⟨text, htext⟩ := List.isPrefixOf_iff_prefix.mp h
    exact ⟨text, htext.symm⟩
  have htrim : trim ('(' :: text) = '(' :: trimRight text := trim_cons (by decide) text
  simp [columnName?, htrim, columnIdentifier?]

/-- A name that was read off a key part names itself. -/
theorem columnName?_self {part name : Text} (h : columnName? part = some name) :
    columnName? name = some name :=
  columnName?_of_isIdentifier (isIdentifier_of_columnName? h)

/-! ## The columns of keys -/

/-- A column that a key names is named by one of its parts. -/
theorem mem_namedColumns {parts : List Text} {column : Text} :
    column ∈ namedColumns parts ↔ ∃ part ∈ parts, columnName? part = some column := by
  simp [namedColumns]

/-- The columns that a key names have names that name themselves. -/
theorem columnName?_of_mem_namedColumns {parts : List Text} {column : Text}
    (h : column ∈ namedColumns parts) : columnName? column = some column := by
  obtain ⟨part, -, hpart⟩ := mem_namedColumns.mp h
  exact columnName?_self hpart

/-- The columns that a key starts with are among those that it names. -/
theorem leadingColumns_subset (parts : List Text) : leadingColumns parts ⊆ namedColumns parts := by
  induction parts with
  | nil => simp [leadingColumns]
  | cons part parts ih =>
      cases hname : columnName? part with
      | none => simp [leadingColumns, hname]
      | some name =>
          simp only [leadingColumns, namedColumns, List.filterMap_cons, hname]
          exact List.cons_subset_cons name ih

/-- A key all of whose parts name themselves starts with all of them. -/
theorem leadingColumns_of_named {columns : List Text}
    (h : ∀ column ∈ columns, columnName? column = some column) :
    leadingColumns columns = columns := by
  induction columns with
  | nil => rfl
  | cons column columns ih =>
      simp only [leadingColumns, h column (by simp)]
      rw [ih fun other hother => h other (List.mem_cons_of_mem _ hother)]

/-- Such a key names all of its parts. -/
theorem namedColumns_of_named {columns : List Text}
    (h : ∀ column ∈ columns, columnName? column = some column) :
    namedColumns columns = columns := by
  induction columns with
  | nil => rfl
  | cons column columns ih =>
      simp only [namedColumns, List.filterMap_cons, h column (by simp)]
      exact congrArg _ (ih fun other hother => h other (List.mem_cons_of_mem _ hother))

end SchemaMigration
