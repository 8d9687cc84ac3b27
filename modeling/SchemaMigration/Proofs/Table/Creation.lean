import SchemaMigration.Proofs.Table.OptionLines
import SchemaMigration.Table.Creation

/-!
# Reading back the statement that creates a table

The statement that creates a table is its definition without the lines of foreign keys and without
the row counter, so it reads as the same table without those.

## Main Definitions

* `Table.bodyLines`, `Table.keptLines`, `Table.closingLines` - the lines of a definition
* `Table.EndsOnce` - a definition with one semicolon from the closing parenthesis on, at its end
* `Table.EndsWithoutComma` - the last line that is kept has no comma in front of a blank or a comma
* `Table.parse_createStatement` - what the statement that creates a table reads as

## Design Notes

The statement is edited line by line. A line that begins with a counter loses it with the blanks on
that line, not with the newline in front of it, and a comma in front of the last counter of a line
is left behind; so the options are those of the lines without their counters. They are the options
without the counters just if these stand apart.
-/

namespace SchemaMigration

open Text

/-! ## Lines -/

namespace TableLine

/-- Whether a line closes the body of a table. -/
def isTerminator : TableLine → Bool
  | terminator _ => true
  | _ => false

/-- Whether a line defines a foreign key. -/
def isForeignKey : TableLine → Bool
  | foreignKey .. => true
  | _ => false

theorem isTerminator_eq_false {line : TableLine} (h : line.isPart = true) :
    line.isTerminator = false := by
  cases line <;> simp_all [isPart, isTerminator]

/-- Nothing stands on a blank line. -/
theorem isPart_ofLine_of_isBlankText {line : Text} (h : isBlankText line = true) :
    ofLine line = .unrecognised [] := by
  rw [isBlankText_eq, List.isEmpty_iff] at h
  rw [ofLine, h]
  rfl

/-- A line without the commas at its end reads the same, unless there is another one in front of the
blanks before those. -/
theorem ofLine_dropTrailing {line : Text}
    (h : (trim (dropTrailing ',' (trim line))).getLast? ≠ some ',') :
    ofLine (dropTrailing ',' (trimRight line)) = ofLine line := by
  have hsplit : ∃ pad, (∀ c ∈ pad, isBlank c = true) ∧ trimRight line = pad ++ trim line := by
    refine ⟨(trimRight line).takeWhile isBlank, fun c hc => List.mem_takeWhile_imp hc, ?_⟩
    rw [← trim_trimRight, trim_eq_trimLeft getLast?_trimRight, trimLeft,
      List.takeWhile_append_dropWhile]
  obtain ⟨pad, hpad, hline⟩ := hsplit
  have hdrop : dropTrailing ',' (pad ++ trim line) = pad ++ dropTrailing ',' (trim line) := by
    clear hline
    induction pad with
    | nil => rfl
    | cons c pad ih =>
        obtain ⟨hc, hpad⟩ := List.forall_mem_cons.mp hpad
        have hne : c ≠ ',' := by
          rintro rfl
          exact absurd hc (by decide)
        rw [List.cons_append, dropTrailing_cons hne, ih hpad, List.cons_append]
  rw [ofLine, hline, hdrop, trim_blank_append hpad, dropTrailing_eq_self h, ofLine, ofText, ofText,
    trim_trim]

end TableLine

namespace Table

/-- The lines between the parentheses. -/
def bodyLines (text : Text) : List Text :=
  (definitionLines text).tail.takeWhile fun line => ! (TableLine.ofLine line).isTerminator

/-- The lines from the closing parenthesis on. -/
def closingLines (text : Text) : List Text :=
  (definitionLines text).tail.dropWhile fun line => ! (TableLine.ofLine line).isTerminator

/-- The lines without those of foreign keys. -/
def withoutForeignKeys (lines : List Text) : List Text :=
  lines.filter fun line => ! (TableLine.ofLine line).isForeignKey

/-- What becomes of the last line in front of the closing parenthesis. -/
def closeLast (kept : List Text) : List Text :=
  kept.dropLast ++ (kept.getLast?.map fun line => dropTrailing ',' (trimRight line)).toList

/-- A definition with one semicolon from the closing parenthesis on, which ends it. -/
structure EndsOnce (text : Text) : Prop where
  last : (trim text).getLast? = some ';'
  others : ';' ∉ (unlines (closingLines text)).dropLast

/-- The last line that is kept has no other comma in front of the commas at its end and the blanks
before those. -/
def EndsWithoutComma (text : Text) : Prop :=
  ∀ line ∈ (withoutForeignKeys (bodyLines text)).getLast?,
    (trim (dropTrailing ',' (trim line))).getLast? ≠ some ','

instance (text : Text) : Decidable (EndsWithoutComma text) :=
  inferInstanceAs (Decidable (∀ line ∈ (withoutForeignKeys (bodyLines text)).getLast?,
    (trim (dropTrailing ',' (trim line))).getLast? ≠ some ','))

theorem map_ofLine_closeLast {kept : List Text}
    (h : ∀ line ∈ kept.getLast?, (trim (dropTrailing ',' (trim line))).getLast? ≠ some ',') :
    (closeLast kept).map TableLine.ofLine = kept.map TableLine.ofLine := by
  rcases List.eq_nil_or_concat kept with rfl | ⟨front, last, rfl⟩
  · rfl
  · rw [List.concat_eq_append] at h ⊢
    have hlast := TableLine.ofLine_dropTrailing (h last (by simp))
    simp [closeLast, hlast]

/-! ## The statement -/

theorem dropLastComma_cons (first : Text) (kept : List Text) :
    dropLastComma (first :: kept) = first :: closeLast kept := by
  cases kept with
  | nil => rfl
  | cons next kept => rfl

theorem creationLines_append {kept body rest : List Text} {closing options : Text}
    (hbody : ∀ line ∈ body, (TableLine.ofLine line).isPart = true)
    (hclosing : TableLine.ofLine closing = .terminator options) :
    creationLines kept (body ++ closing :: rest)
      = dropLastComma (kept ++ withoutForeignKeys body) ++
        (closing :: rest).map withoutCounter := by
  induction body generalizing kept with
  | nil =>
      rw [List.nil_append, creationLines, ← TableLine.ofLine, hclosing, withoutForeignKeys,
        List.filter_nil, List.append_nil]
  | cons line body ih =>
      obtain ⟨hline, hbody⟩ := List.forall_mem_cons.mp hbody
      rw [List.cons_append, creationLines, ← TableLine.ofLine]
      cases hread : TableLine.ofLine line with
      | foreignKey =>
          refine (ih hbody).trans ?_
          simp [withoutForeignKeys, hread, TableLine.isForeignKey]
      | terminator | unrecognised => simp [hread, TableLine.isPart] at hline
      | _ =>
          refine (ih hbody).trans ?_
          simp [withoutForeignKeys, hread, TableLine.isForeignKey]

/-- The first line of a definition begins with its first character. -/
theorem head?_of_definitionLines {text first : Text} {rest : List Text}
    (h : definitionLines text = first :: rest) : ∀ c ∈ first.head?, isBlank c = false := by
  obtain ⟨piece, pieces, hlines, hpiece⟩ := exists_piece_append (· == '\n') (trim text)
  have hhead : ∀ c ∈ (trim text).head?, isBlank c = false := head?_trim
  rw [definitionLines, lines, hlines] at h
  cases piece with
  | nil =>
      rcases hpiece with htext | ⟨c, behind, hc, htext⟩
      · rw [htext] at hlines
        obtain ⟨-, rfl⟩ := List.cons.inj hlines
        cases h
      · rw [htext] at hhead
        obtain rfl : c = '\n' := by simpa using hc
        exact absurd (hhead _ rfl) (by decide)
  | cons c piece =>
      have hc : isBlank c = false := by
        refine hhead c ?_
        rcases hpiece with htext | ⟨_, _, -, htext⟩ <;> rw [htext] <;> rfl
      rw [List.filter_cons_of_pos (by simp [isBlankText, hc])] at h
      obtain ⟨rfl, -⟩ := List.cons.inj h
      rintro d ⟨⟩
      exact hc

/-- The last line of a definition that ends in a semicolon does so. -/
theorem exists_definitionLines {text : Text} (h : (trim text).getLast? = some ';') :
    ∃ front last, definitionLines text = front ++ [last ++ [';']] := by
  obtain ⟨inside, htext⟩ := List.getLast?_eq_some_iff.mp h
  obtain ⟨front, last, hlines⟩ := lines_concat (show ';' ≠ '\n' by decide) inside
  refine ⟨front.filter (! isBlankText ·), last, ?_⟩
  have hbare : isBlankText (last ++ [';']) = false := by
    rw [isBlankText, List.all_append]
    exact Bool.and_false _
  rw [definitionLines, htext, hlines, List.filter_append, List.filter_cons_of_pos (by simp [hbare]),
    List.filter_nil]

/-- A definition whose only semicolon from the closing parenthesis on ends it has that at the end of
its last line. -/
theorem EndsOnce.endWithSemicolon {text closing : Text} {rest : List Text} (h : EndsOnce text)
    (hclosing : closingLines text = closing :: rest) : EndWithSemicolon (closingLines text) := by
  obtain ⟨front, last, hlines⟩ := exists_definitionLines h.last
  have hsuffix : closingLines text <:+ front ++ [last ++ [';']] := by
    rw [← hlines]
    exact (List.dropWhile_suffix _).trans (List.tail_suffix _)
  obtain ⟨init, hinit⟩ : ∃ init, closingLines text = init ++ [last ++ [';']] := by
    obtain ⟨used, hused⟩ := hsuffix
    rcases List.eq_nil_or_concat (closingLines text) with hnil | ⟨init, final, hfinal⟩
    · rw [hnil] at hclosing
      cases hclosing
    · rw [hfinal, List.concat_eq_append, ← List.append_assoc] at hused
      obtain ⟨-, hsame⟩ := List.append_inj' hused rfl
      exact ⟨init, by rw [hfinal, List.concat_eq_append, hsame]⟩
  have hothers := h.others
  rw [hinit, unlines_append_last, List.dropLast_concat] at hothers
  refine ⟨init, last, hinit, fun line hline hmem => hothers ?_, fun hmem => hothers ?_⟩
  · exact subset_unlines (List.mem_append_left _ hline) hmem
  · exact subset_unlines (List.mem_append_right init (List.mem_singleton_self last)) hmem

/-! ## Drafts without foreign keys -/

namespace Draft

/-- The parts of a table but for its foreign keys. -/
def withoutForeignKeys (draft : Draft) : Draft := { draft with foreignKeys := [] }

/-- The line of a foreign key changes no other part, and no other line depends on the foreign keys
in front of it. -/
theorem Takes.withoutForeignKeys {table : Text} {draft next : Draft} {line : TableLine}
    (h : draft.Takes table line next) :
    line.isForeignKey = true ∧ next.withoutForeignKeys = draft.withoutForeignKeys ∨
      line.isForeignKey = false ∧
        draft.withoutForeignKeys.Takes table line next.withoutForeignKeys := by
  cases h with
  | foreignKey => exact .inl ⟨rfl, rfl⟩
  | column hnew => exact .inr ⟨rfl, .column hnew⟩
  | primaryKey hnone => exact .inr ⟨rfl, .primaryKey hnone⟩
  | index hname => exact .inr ⟨rfl, .index hname⟩
  | check hname => exact .inr ⟨rfl, .check hname⟩
  | terminator options => exact .inr ⟨rfl, .terminator options⟩
  | unrecognised text => exact .inr ⟨rfl, .unrecognised text⟩

/-- So the lines of foreign keys may be left out. -/
theorem addLines_withoutForeignKeys {table : Text} {draft last : Draft} {lines : List Text}
    (h : draft.addLines table lines = .ok last) :
    draft.withoutForeignKeys.addLines table (Table.withoutForeignKeys lines)
      = .ok last.withoutForeignKeys := by
  induction lines generalizing draft with
  | nil =>
      obtain rfl : draft = last := Except.ok.inj h
      rfl
  | cons line lines ih =>
      obtain ⟨next, htakes, hlast⟩ := addLines_cons_eq_ok.mp h
      rw [Table.withoutForeignKeys]
      rcases htakes.withoutForeignKeys with ⟨hline, hsame⟩ | ⟨hline, hkept⟩
      · rw [List.filter_cons_of_neg (by simp [hline]), ← hsame]
        exact ih hlast
      · rw [List.filter_cons_of_pos (by simp [hline])]
        exact addLines_cons_eq_ok.mpr ⟨_, hkept, ih hlast⟩

theorem checkColumns_withoutForeignKeys {table : Text} {draft : Draft}
    (h : draft.checkColumns table = .ok ()) :
    draft.withoutForeignKeys.checkColumns table = .ok () := by
  refine checkColumns_eq_ok.mpr fun owner part hpart => checkColumns_eq_ok.mp h owner part ?_
  simp only [keyParts, withoutForeignKeys, List.flatMap_nil, List.append_nil] at hpart
  exact List.mem_append_left _ hpart

theorem addLines_congr {table : Text} {lines others : List Text}
    (h : lines.map TableLine.ofLine = others.map TableLine.ofLine) (draft : Draft) :
    draft.addLines table lines = draft.addLines table others := by
  have hmap (lines : List Text) : draft.addLines table lines
      = (lines.map TableLine.ofLine).foldlM (fun draft line => draft.add table line) draft := by
    rw [List.foldlM_map, addLines]
  rw [hmap, hmap, h]

end Draft

/-! ## Definitions as lines -/

/-- A definition consists of a first line, lines that define parts, a line that closes the body, and
the lines behind that one. -/
structure HasLines (text first : Text) (body : List Text) (closing : Text) (rest : List Text) :
    Prop where
  lines : definitionLines text = first :: (body ++ closing :: rest)
  body : ∀ line ∈ body, (TableLine.ofLine line).isPart = true
  closing : ∃ options, dropTrailing ',' (trim closing) = ')' :: options

section

variable {text first closing : Text} {body rest : List Text}

theorem HasLines.isTerminator (h : HasLines text first body closing rest) :
    ∃ options, TableLine.ofLine closing = .terminator options := by
  obtain ⟨options, hoptions⟩ := h.closing
  exact ⟨_, TableLine.ofLine_eq_terminator.mpr ⟨options, hoptions, rfl⟩⟩

theorem HasLines.bodyLines_eq (h : HasLines text first body closing rest) :
    bodyLines text = body := by
  obtain ⟨options, hoptions⟩ := h.isTerminator
  rw [bodyLines, h.lines, List.tail_cons, List.takeWhile_append_of_pos fun line hline => by
    simp [TableLine.isTerminator_eq_false (h.body line hline)], List.takeWhile_cons_of_neg (by
      simp [hoptions, TableLine.isTerminator]), List.append_nil]

theorem HasLines.closingLines_eq (h : HasLines text first body closing rest) :
    closingLines text = closing :: rest := by
  obtain ⟨options, hoptions⟩ := h.isTerminator
  rw [closingLines, h.lines, List.tail_cons, List.dropWhile_append_of_pos fun line hline => by
    simp [TableLine.isTerminator_eq_false (h.body line hline)], List.dropWhile_cons_of_neg (by
      simp [hoptions, TableLine.isTerminator])]

/-- What reading a table comes to, by its lines. -/
theorem parse_eq_ok_iff_hasLines {table : Table} : parse text = .ok table ↔
    ∃ first body closing rest, HasLines text first body closing rest ∧
      nameOfFirstLine? first = some table.name ∧
      Draft.empty.addLines table.name body = .ok table.draft ∧
      table.draft.checkColumns table.name = .ok () ∧
      table.options = optionsText (splitTrailer (optionLines (closing :: rest))).1 ∧
      table.definition = trim text := by
  rw [parse_eq_ok]
  constructor
  · rintro ⟨first, lines, trailer, hlines, hname, hread, hcolumns, hoptions, hdefinition⟩
    obtain ⟨body, closing, rest, options, rfl, hbody, hdraft, hclosing, rfl⟩ :=
      readBody_eq_ok.mp hread
    have htrailer : optionLines (closing :: rest) = options :: rest.map trim := by
      rw [optionLines, hclosing]
      rfl
    obtain ⟨inside, hinside, -⟩ := TableLine.ofLine_eq_terminator.mp hclosing
    exact ⟨first, body, closing, rest, ⟨hlines, hbody, inside, hinside⟩, hname, hdraft, hcolumns,
      htrailer ▸ hoptions, hdefinition⟩
  · rintro ⟨first, body, closing, rest, h, hname, hdraft, hcolumns, hoptions, hdefinition⟩
    obtain ⟨options, hclosing⟩ := h.isTerminator
    have htrailer : optionLines (closing :: rest) = options :: rest.map trim := by
      rw [optionLines, hclosing]
      rfl
    exact ⟨first, _, _, h.lines, hname, readBody_eq_ok.mpr ⟨body, closing, rest, options, rfl,
      h.body, hdraft, hclosing, rfl⟩, hcolumns, htrailer ▸ hoptions, hdefinition⟩

/-! ## The statement as lines -/

/-- The lines of the statement that creates a table. -/
def createdLines (first : Text) (body closings : List Text) : List Text :=
  first :: (closeLast (withoutForeignKeys body) ++ closings.map withoutCounter)

theorem exists_unlines_createdLines (h : EndWithSemicolon (closing :: rest)) :
    ∃ front, unlines (createdLines first body (closing :: rest)) = front ++ [';'] := by
  obtain ⟨init, last, hlines, -⟩ := h.withoutCounter
  rw [createdLines, hlines, ← List.append_assoc, ← List.cons_append, unlines_append_last]
  exact ⟨_, rfl⟩

/-- A text without blanks at its end, and with a semicolon there. -/
def closeStatement (text : Text) : Text :=
  let statement := trimRight text
  if endsWith ";" statement then statement else statement ++ ";"

/-- The statement that creates a table consists of its lines. -/
theorem createStatement_eq_createdLines {table : Table}
    (hdefinition : table.definition = trim text) (h : HasLines text first body closing rest) :
    table.createStatement =
      closeStatement (unlines (createdLines first body (closing :: rest))) := by
  obtain ⟨options, hoptions⟩ := h.isTerminator
  have hkept : creationLines [first] (body ++ closing :: rest)
      = createdLines first body (closing :: rest) := by
    rw [creationLines_append h.body hoptions, List.singleton_append, dropLastComma_cons,
      createdLines, List.cons_append]
  have hlines : (lines table.definition).filter (! isBlankText ·)
      = first :: (body ++ closing :: rest) := by
    rw [hdefinition]
    exact h.lines
  simp only [createStatement, hlines, hkept, closeStatement]

/-- The statement ends with the semicolon of the definition. -/
theorem createStatement_eq {table : Table} (hdefinition : table.definition = trim text)
    (h : HasLines text first body closing rest) (hends : EndWithSemicolon (closing :: rest)) :
    table.createStatement = unlines (createdLines first body (closing :: rest)) := by
  obtain ⟨front, hfront⟩ : ∃ front, unlines (createdLines first body (closing :: rest))
      = front ++ [';'] := exists_unlines_createdLines hends
  have hsemicolon : trimRight [';'] = [';'] := by decide
  have htrim : trimRight (front ++ [';']) = front ++ [';'] := by
    rw [trimRight_append (by simp [hsemicolon]), hsemicolon]
  rw [createStatement_eq_createdLines hdefinition h, closeStatement, hfront, htrim]
  exact if_pos (List.isSuffixOf_iff_suffix.mpr ⟨front, rfl⟩)

theorem not_isBlankText_of_mem {line : Text} (h : line ∈ definitionLines text) :
    isBlankText line = false := by
  simpa using (List.mem_filter.mp h).2

theorem newline_notMem_of_mem {line : Text} (h : line ∈ definitionLines text) : '\n' ∉ line :=
  newline_notMem_of_mem_lines (List.mem_filter.mp h).1

theorem exists_of_mem_closeLast {kept : List Text} {line : Text} (h : line ∈ closeLast kept) :
    ∃ raw ∈ kept, line ⊆ raw := by
  rcases List.mem_append.mp h with hmem | hmem
  · exact ⟨line, List.mem_of_mem_dropLast hmem, List.Subset.refl _⟩
  · rw [Option.mem_toList, Option.map_eq_some_iff] at hmem
    obtain ⟨raw, hraw, rfl⟩ := hmem
    refine ⟨raw, List.mem_of_getLast? hraw, fun c hc => ?_⟩
    exact (List.rdropWhile_prefix isBlank raw).subset ((dropTrailing_isPrefix ',' _).subset hc)

theorem isBlankText_eq_false_of_ofLine {line : Text}
    (h : TableLine.ofLine line ≠ .unrecognised []) : isBlankText line = false := by
  rw [Bool.eq_false_iff]
  exact fun hblank => h (TableLine.isPart_ofLine_of_isBlankText hblank)

theorem HasLines.mem (h : HasLines text first body closing rest) {line : Text}
    (hline : line ∈ first :: (body ++ closing :: rest)) : line ∈ definitionLines text :=
  h.lines ▸ hline

/-- The lines that are kept define the same parts as before. -/
theorem HasLines.isPart_of_mem_closeLast (h : HasLines text first body closing rest)
    (hlast : ∀ line ∈ (withoutForeignKeys body).getLast?,
      (trim (dropTrailing ',' (trim line))).getLast? ≠ some ',') :
    ∀ line ∈ closeLast (withoutForeignKeys body), (TableLine.ofLine line).isPart = true := by
  intro line hline
  have hsame : TableLine.ofLine line ∈ (withoutForeignKeys body).map TableLine.ofLine :=
    map_ofLine_closeLast hlast ▸ List.mem_map_of_mem hline
  obtain ⟨raw, hraw, heq⟩ := List.mem_map.mp hsame
  rw [← heq]
  exact h.body raw (List.mem_filter.mp hraw).1

theorem HasLines.trim_createdLines (h : HasLines text first body closing rest)
    (hends : EndWithSemicolon (closing :: rest)) :
    trim (unlines (createdLines first body (closing :: rest)))
      = unlines (createdLines first body (closing :: rest)) := by
  refine trim_eq_self ?_ ?_
  · have hfirst : isBlankText first = false := not_isBlankText_of_mem (h.mem (by simp))
    obtain ⟨c, inside, rfl⟩ := List.exists_cons_of_ne_nil (show first ≠ [] by
      rintro rfl
      cases hfirst)
    have hhead := head?_of_definitionLines h.lines
    rw [createdLines, unlines_cons_head]
    exact fun d hd => hhead d hd
  · obtain ⟨front, hfront⟩ : ∃ front, unlines (createdLines first body (closing :: rest))
        = front ++ [';'] := exists_unlines_createdLines hends
    rw [hfront, List.getLast?_concat]
    rintro c ⟨⟩
    rfl

/-- Each line of the statement is a part of a line of the definition. -/
theorem HasLines.newline_notMem_createdLines (h : HasLines text first body closing rest) :
    ∀ line ∈ createdLines first body (closing :: rest), '\n' ∉ line := by
  intro line hline hnewline
  rcases List.mem_cons.mp hline with rfl | hline
  · exact newline_notMem_of_mem (h.mem (by simp)) hnewline
  rcases List.mem_append.mp hline with hline | hline
  · obtain ⟨raw, hraw, hsubset⟩ := exists_of_mem_closeLast hline
    have hbody : raw ∈ body := (List.mem_filter.mp hraw).1
    exact newline_notMem_of_mem (h.mem (by simp [hbody])) (hsubset hnewline)
  · obtain ⟨raw, hraw, rfl⟩ := List.mem_map.mp hline
    exact newline_notMem_of_mem (h.mem (List.mem_cons_of_mem _ (List.mem_append_right _ hraw)))
      ((withoutCounter_sublist raw).subset hnewline)

/-- The lines of the statement are the first line, those that are kept, and those from the closing
parenthesis on of which something is left. -/
theorem HasLines.created (h : HasLines text first body closing rest)
    (hends : EndWithSemicolon (closing :: rest))
    (hlast : ∀ line ∈ (withoutForeignKeys body).getLast?,
      (trim (dropTrailing ',' (trim line))).getLast? ≠ some ',') :
    HasLines (unlines (createdLines first body (closing :: rest))) first
      (closeLast (withoutForeignKeys body)) (withoutCounter closing)
      ((rest.map withoutCounter).filter (! isBlankText ·)) := by
  have hparts := h.isPart_of_mem_closeLast hlast
  obtain ⟨options, hoptions⟩ := h.closing
  have hclosing := dropTrailing_withoutCounter hoptions
  refine ⟨?_, hparts, _, hclosing⟩
  have hfirst : isBlankText first = false := not_isBlankText_of_mem (h.mem (by simp))
  rw [definitionLines, h.trim_createdLines hends,
    lines_unlines (by simp [createdLines]) h.newline_notMem_createdLines, createdLines,
    List.filter_cons_of_pos (by simp [hfirst]), List.filter_append, List.map_cons,
    List.filter_cons_of_pos, List.filter_eq_self.mpr]
  · intro line hline
    rw [isBlankText_eq_false_of_ofLine fun hnone => ?_]
    · rfl
    · have hpart := hparts line hline
      rw [hnone] at hpart
      cases hpart
  · rw [isBlankText_eq_false_of_ofLine fun hnone => ?_]
    · rfl
    · rw [TableLine.ofLine_eq_terminator.mpr ⟨_, hclosing, rfl⟩] at hnone
      cases hnone

/-- Lines of which nothing is left make no difference for the options. -/
theorem optionsText_created (h : HasLines text first body closing rest)
    (hends : EndWithSemicolon (closing :: rest)) :
    optionsText (splitTrailer (optionLines (withoutCounter closing ::
        (rest.map withoutCounter).filter (! isBlankText ·)))).1
      = optionsText (optionLines ((closing :: rest).map withoutCounter)) := by
  obtain ⟨options, hoptions⟩ := h.closing
  have hclosing := dropTrailing_withoutCounter hoptions
  have hclosed := areClosed_withoutCounter hoptions hends
  have hfilter : ((rest.map withoutCounter).filter (! isBlankText ·)).map trim
      = ((rest.map withoutCounter).map trim).filter (! ·.isEmpty) := by
    simp only [isBlankText_eq, List.filter_map]
    rfl
  rw [List.map_cons, optionLines_eq hclosing] at hclosed ⊢
  rw [optionLines_eq hclosing, hfilter, optionsText_splitTrailer_filter hclosed]

end

/-- The statement that creates a table reads as the table without its foreign keys, if the
definition has one semicolon behind the body, at its end, and no comma is left in front of those at
the end of the last line that is kept. Its options are what is left of each line without the row
counter; they are the options without the row counter just if the counters stand apart. -/
theorem parse_createStatement {text : Text} {table : Table} (h : parse text = .ok table)
    (hends : EndsOnce text) (hlast : EndsWithoutComma text) :
    parse table.createStatement = .ok { table with
      foreignKeys := []
      options := optionsText (optionLines ((closingLines text).map withoutCounter))
      definition := table.createStatement } ∧
    (optionsText (optionLines ((closingLines text).map withoutCounter))
        = trim (withoutCounter table.options) ↔ CountersApart (closingLines text)) := by
  obtain ⟨first, body, closing, rest, hlines, hname, hdraft, hcolumns, hoptions, hdefinition⟩ :=
    parse_eq_ok_iff_hasLines.mp h
  rw [EndsWithoutComma, hlines.bodyLines_eq] at hlast
  have hclosed := hends.endWithSemicolon hlines.closingLines_eq
  rw [hlines.closingLines_eq] at hclosed ⊢
  obtain ⟨options, hclosing⟩ := hlines.closing
  have hstatement := createStatement_eq hdefinition hlines hclosed
  constructor
  · have htrim := hlines.trim_createdLines hclosed
    have hcreated := hlines.created hclosed hlast
    rw [← hstatement] at htrim hcreated
    refine parse_eq_ok_iff_hasLines.mpr ⟨_, _, _, _, hcreated, hname, ?_,
      Draft.checkColumns_withoutForeignKeys hcolumns, ?_, htrim.symm⟩
    · rw [Draft.addLines_congr (map_ofLine_closeLast hlast)]
      exact Draft.addLines_withoutForeignKeys hdraft
    · dsimp only
      rw [optionsText_created hlines hclosed]
  · rw [hoptions, splitTrailer_eq_self (areClosed_optionLines hclosing hclosed)]
    exact optionsText_optionLines_iff hclosing hclosed

/-- A text whose table is created by a statement that reads as the table without its foreign keys
and the row counter. -/
def IsRecreated (text : Text) : Prop :=
  ∃ table created, parse text = .ok table ∧ parse table.createStatement = .ok created ∧
    created = { table with
      foreignKeys := []
      options := trim (withoutCounter table.options)
      definition := created.definition }

/-- A table with foreign keys in front of the closing parenthesis, an index without a name, and a
counter on the second line of its options. -/
def ordersText : Text := unlines ["CREATE TABLE orders (".toList,
  "  id int NOT NULL AUTO_INCREMENT,".toList, "  note varchar(40),".toList, "".toList,
  "  PRIMARY KEY (id),".toList, "  KEY (note(20)),".toList,
  "  CONSTRAINT f FOREIGN KEY (id) REFERENCES t (id)".toList, ") ENGINE=InnoDB".toList,
  "  AUTO_INCREMENT=42 DEFAULT CHARSET=latin1".toList, "COMMENT='x';".toList]

/-- Such a table is created again. -/
theorem isRecreated_ordersText : EndsOnce ordersText ∧ EndsWithoutComma ordersText ∧
    CountersApart (closingLines ordersText) ∧ IsRecreated ordersText := by
  have hends : EndsOnce ordersText := ⟨by decide +kernel, by decide +kernel⟩
  have hlast : EndsWithoutComma ordersText := by decide +kernel
  have hapart : CountersApart (closingLines ordersText) := by decide +kernel
  refine ⟨hends, hlast, hapart, ?_⟩
  cases htable : parse ordersText with
  | error problem =>
      have hok : (parse ordersText).isOk = true := by decide +kernel
      rw [htable] at hok
      cases hok
  | ok table =>
      obtain ⟨hread, hoptions⟩ := parse_createStatement htable hends hlast
      rw [hoptions.mpr hapart] at hread
      exact ⟨table, _, htable, hread, rfl⟩

instance (text : Text) : Decidable (IsRecreated text) :=
  match h : parse text with
  | .error _ => isFalse fun ⟨_, _, htable, _⟩ => by
      rw [h] at htable
      cases htable
  | .ok table =>
    match h' : parse table.createStatement with
    | .error _ => isFalse fun ⟨other, _, htable, hcreated, _⟩ => by
        obtain rfl : table = other := Except.ok.inj (h.symm.trans htable)
        rw [h'] at hcreated
        cases hcreated
    | .ok created => decidable_of_iff (created = { table with
        foreignKeys := []
        options := trim (withoutCounter table.options)
        definition := created.definition }) ⟨fun heq => ⟨table, created, h, h', heq⟩,
          fun ⟨other, result, htable, hcreated, heq⟩ => by
            obtain rfl : table = other := Except.ok.inj (h.symm.trans htable)
            obtain rfl : created = result := Except.ok.inj (h'.symm.trans hcreated)
            exact heq⟩

/-- A table whose second option line is a counter and a comma in front of another option. -/
def counterThenCommaText : Text := unlines ["CREATE TABLE t (".toList, "  a int".toList,
  ") ENGINE=InnoDB".toList, "AUTO_INCREMENT=5, COMMENT='x';".toList]

/-- A table whose first option line ends with a comma and a counter. -/
def commaThenCounterText : Text := unlines ["CREATE TABLE t (".toList, "  a int".toList,
  ") ENGINE=InnoDB, AUTO_INCREMENT=5".toList, "COMMENT='x';".toList]

/-- A table whose last line in front of the parenthesis ends with two commas that stand apart. -/
def twoCommasText : Text := unlines ["CREATE TABLE t (".toList, "  a int , ,".toList,
  ") ENGINE=InnoDB;".toList]

/-- None of these tables is created again as it was. -/
theorem not_isRecreated_counterThenCommaText :
    ((parse counterThenCommaText).isOk = true ∧ EndsOnce counterThenCommaText ∧
      ¬ IsRecreated counterThenCommaText) ∧
    ((parse commaThenCounterText).isOk = true ∧ EndsOnce commaThenCounterText ∧
      ¬ IsRecreated commaThenCounterText) ∧
    ((parse twoCommasText).isOk = true ∧ EndsOnce twoCommasText ∧
      ¬ IsRecreated twoCommasText) := by
  refine ⟨⟨?_, ⟨?_, ?_⟩, ?_⟩, ⟨?_, ⟨?_, ?_⟩, ?_⟩, ?_, ⟨?_, ?_⟩, ?_⟩ <;> decide +kernel

end Table

end SchemaMigration
