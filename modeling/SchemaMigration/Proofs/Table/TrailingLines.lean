import SchemaMigration.Migration.TableComparison
import SchemaMigration.Proofs.Table.Creation

/-!
# Lines behind a definition

A definition is over with the first line from the closing parenthesis on that ends in a semicolon.
What is written below it makes no difference for the name of the table, its columns, keys, checks
and options, and so for the steps that change a table. It stays in the definition though, and from
there it gets into the statement that creates the table.

## Main Definitions

* `Table.linesBehind` - the lines that a text adds below a definition
* `Table.Continued` - lines with others below them, and blanks behind the last of the first ones
* `Table.HasLines.append` - what is below a definition continues it from its closing parenthesis on
* `Table.IsOver` - a text with a line that ends its definition
* `Table.createStatement_append` - what becomes of the lines below in the statement
* `TableComparison.steps_withDefinitions` - the steps do not depend on how tables are written
* `Table.parse_append_below` - what the lines below are for, and what not

## Design Notes

The blanks at the end of a definition are trimmed, those inside are not; with something below it
they belong to its last line. So the lines of a definition are the same up to the last one, and that
one gets blanks behind it which do not matter to its readers.
-/

namespace SchemaMigration

open Text

/-! ## Lines of two texts -/

namespace Text

theorem isBlankText_of_subset {text part : Text} (h : ∀ c ∈ text, isBlank c = true)
    (hpart : part ⊆ text) : isBlankText part = true :=
  List.all_eq_true.mpr fun c hc => h c (hpart hc)

theorem subset_of_mem_lines {text line : Text} (h : line ∈ lines text) : line ⊆ text := by
  have hline := subset_unlines h
  rwa [unlines_lines] at hline

/-- Each line but the first stands behind a newline. -/
theorem unlines_cons_flatMap (line : Text) (lines : List Text) :
    unlines (line :: lines) = line ++ lines.flatMap ('\n' :: ·) := by
  induction lines generalizing line with
  | nil => simp [unlines, join]
  | cons next lines ih =>
      rw [unlines_cons_of_ne_nil line (by simp), ih, List.flatMap_cons]
      rfl

/-- Blanks behind a text stand behind its last line, and on blank lines below that. -/
theorem exists_lines_append_blank {text last pad : Text} {front : List Text}
    (hlines : lines text = front ++ [last]) (hpad : ∀ c ∈ pad, isBlank c = true) :
    ∃ gap blanks, (∀ c ∈ gap, isBlank c = true) ∧ (∀ line ∈ blanks, isBlankText line = true) ∧
      lines (text ++ pad) = front ++ (last ++ gap) :: blanks := by
  obtain ⟨gap, pieces, hpieces, hparts⟩ := exists_piece_append (· == '\n') pad
  have hfirst : gap ∈ lines pad := by simp [lines, hpieces]
  have hgap : '\n' ∉ gap := newline_notMem_of_mem_lines hfirst
  rcases hparts with rfl | ⟨c, below, hc, rfl⟩
  · exact ⟨pad, [], hpad, by simp, lines_append_last hgap hlines⟩
  · obtain rfl : c = '\n' := by simpa using hc
    refine ⟨gap, lines below, fun d hd => hpad d (by simp [hd]), fun line hline => ?_, ?_⟩
    · exact isBlankText_of_subset (fun d hd => hpad d (by simp [hd])) (subset_of_mem_lines hline)
    · rw [← List.append_assoc, lines_append_cons, lines_append_last hgap hlines]
      simp

theorem trim_append_blank (text : Text) {pad : Text} (hpad : ∀ c ∈ pad, isBlank c = true) :
    trim (text ++ pad) = trim text := by
  rw [← trim_trimRight, trimRight_append_of_blank _ hpad, trim_trimRight]

theorem trimRight_ne_nil {text : Text} {c : Char} (hmem : c ∈ text) (hc : isBlank c = false) :
    trimRight text ≠ [] := by
  obtain ⟨pad, hpad, htext⟩ := exists_trimRight text
  intro hnil
  rw [htext, hnil] at hmem
  simp [hpad c hmem] at hc

/-- What ends with something else than a blank is not trimmed. -/
theorem isInfix_trimRight {text part : Text} (h : part <:+: text)
    (hlast : ∀ c ∈ part.getLast?, isBlank c = false) : part <:+: trimRight text := by
  obtain ⟨front, back, rfl⟩ := h
  by_cases hpart : part = []
  · rw [hpart]
    exact List.nil_infix
  by_cases hback : trimRight back = []
  · have hblank : ∀ c ∈ back, isBlank c = true := by
      obtain ⟨pad, hpad, heq⟩ := exists_trimRight back
      rwa [heq, hback]
    have hself : trimRight (front ++ part) = front ++ part :=
      trimRight_eq_self (by rwa [List.getLast?_append_of_ne_nil _ hpart])
    rw [trimRight_append_of_blank _ hblank, hself]
    exact (List.suffix_append front part).isInfix
  · rw [trimRight_append hback]
    exact ⟨front, trimRight back, rfl⟩

theorem isInfix_flatMap_newline {line : Text} {lines : List Text} (h : line ∈ lines) :
    line <:+: lines.flatMap ('\n' :: ·) := by
  obtain ⟨front, rest, rfl⟩ := List.append_of_mem h
  refine ⟨front.flatMap ('\n' :: ·) ++ ['\n'], rest.flatMap ('\n' :: ·), ?_⟩
  simp

/-- With something below a text only the blanks in front of it are trimmed. -/
theorem exists_trim_append {text more : Text} (h : trim text ≠ []) (hmore : trimRight more ≠ []) :
    ∃ pad, (∀ c ∈ pad, isBlank c = true) ∧
      trim (text ++ '\n' :: more) = trim text ++ pad ++ '\n' :: trimRight more := by
  obtain ⟨before, pad, htext, hbefore, hpad⟩ := exists_trim text
  have hwhole : text ++ '\n' :: more = before ++ (trim text ++ (pad ++ '\n' :: more)) := by
    conv_lhs => rw [htext]
    simp
  have hleft : trimLeft (trim text) ≠ [] := by rwa [trimLeft_trim]
  have hright : trimRight ('\n' :: more) = '\n' :: trimRight more := trimRight_cons hmore _
  refine ⟨pad, hpad, ?_⟩
  rw [hwhole, trim_blank_append hbefore, trim, trimLeft_append hleft, trimLeft_trim,
    ← List.append_assoc, trimRight_append (by simp [hright]), hright]

end Text

namespace Table

/-- The lines that are added by a text below a definition: those that are not blank, the last one
without the blanks behind it. -/
def linesBehind (more : Text) : List Text := (lines (trimRight more)).filter (! isBlankText ·)

/-- Lines, with blanks behind the last one, and more lines below it. -/
inductive Continued (more : List Text) : (lines longer : List Text) → Prop
  | last {last pad : Text} (hlast : ∀ c ∈ last.getLast?, isBlank c = false)
      (hpad : ∀ c ∈ pad, isBlank c = true) : Continued more [last] ((last ++ pad) :: more)
  | cons (line : Text) {lines longer : List Text} (h : Continued more lines longer) :
      Continued more (line :: lines) (line :: longer)

theorem continued_append {more : List Text} (front : List Text) {last pad : Text}
    (hlast : ∀ c ∈ last.getLast?, isBlank c = false) (hpad : ∀ c ∈ pad, isBlank c = true) :
    Continued more (front ++ [last]) (front ++ (last ++ pad) :: more) := by
  induction front with
  | nil => exact .last hlast hpad
  | cons line front ih => exact .cons line ih

/-- The last line of a text ends as the text does. -/
theorem exists_lines_trim {text : Text} (h : trim text ≠ []) : ∃ front last,
    lines (trim text) = front ++ [last] ∧ last ≠ [] ∧ ∀ c ∈ last.getLast?, isBlank c = false := by
  obtain ⟨inside, c, hinside⟩ : ∃ inside c, trim text = inside ++ [c] :=
    ⟨_, _, (List.dropLast_append_getLast h).symm⟩
  have hlast : c ∈ (trim text).getLast? := by simp [hinside]
  have hc : isBlank c = false := getLast?_trim c hlast
  have hnewline : c ≠ '\n' := by
    rintro rfl
    cases hc
  obtain ⟨front, last, hlines⟩ := lines_concat hnewline inside
  refine ⟨front, last ++ [c], hinside ▸ hlines, by simp, ?_⟩
  rw [List.getLast?_concat]
  rintro d ⟨⟩
  exact hc

/-- The lines of a definition are continued by those below it. -/
theorem continued_definitionLines {text : Text} (h : trim text ≠ []) (more : Text) :
    Continued (linesBehind more) (definitionLines text)
      (definitionLines (text ++ '\n' :: more)) := by
  obtain ⟨front, last, hlines, hne, hends⟩ := exists_lines_trim h
  have hbare (pad : Text) : isBlankText (last ++ pad) = false := by
    rw [isBlankText, List.all_eq_false]
    exact ⟨_, List.mem_append_left pad (List.getLast_mem hne),
      by simp [hends _ (List.getLast_mem_getLast? hne)]⟩
  have hkept : definitionLines text = front.filter (! isBlankText ·) ++ [last] := by
    have hlast := hbare []
    rw [List.append_nil] at hlast
    rw [definitionLines, hlines, List.filter_append, List.filter_cons_of_pos (by simp [hlast]),
      List.filter_nil]
  by_cases hmore : trimRight more = []
  · -- blanks below the definition go with those at its end
    have hblank : ∀ d ∈ '\n' :: more, isBlank d = true := by
      obtain ⟨pad, hpad, heq⟩ := exists_trimRight more
      rw [heq, hmore]
      exact List.forall_mem_cons.mpr ⟨rfl, hpad⟩
    have hsame : definitionLines (text ++ '\n' :: more) = definitionLines text := by
      rw [definitionLines, ← trim_trimRight, trimRight_append_of_blank _ hblank, trim_trimRight,
        definitionLines]
    have hcontinued : Continued [] _ _ := continued_append (front.filter (! isBlankText ·)) hends
      (List.forall_mem_nil _)
    rw [List.append_nil] at hcontinued
    rw [hsame, hkept, linesBehind, hmore]
    exact hcontinued
  · obtain ⟨pad, hpad, htrim⟩ := exists_trim_append h hmore
    obtain ⟨gap, blanks, hgap, hblanks, hpadded⟩ := exists_lines_append_blank hlines hpad
    have hgone : blanks.filter (! isBlankText ·) = [] :=
      List.filter_eq_nil_iff.mpr fun line hline => by simp [hblanks line hline]
    have hlonger : definitionLines (text ++ '\n' :: more) =
        front.filter (! isBlankText ·) ++ (last ++ gap) :: linesBehind more := by
      rw [definitionLines, htrim, lines_append_cons, hpadded, List.filter_append,
        List.filter_append, List.filter_cons_of_pos (by rw [hbare gap]; rfl), hgone, linesBehind]
      simp
    rw [hkept, hlonger]
    exact continued_append _ hends hgap

section

variable {more lines longer : List Text}

/-- Where lines are parted, the second part is continued. -/
theorem Continued.exists_append {front : List Text} {line : Text} {rest : List Text}
    (h : Continued more (front ++ line :: rest) longer) : ∃ other others,
      longer = front ++ other :: others ∧ Continued more (line :: rest) (other :: others) := by
  induction front generalizing longer with
  | nil =>
      cases h with
      | last hlast hpad => exact ⟨_, _, rfl, .last hlast hpad⟩
      | cons _ h => exact ⟨_, _, rfl, .cons line h⟩
  | cons first front ih =>
      rw [List.cons_append] at h
      generalize hlines : front ++ line :: rest = lines at h
      cases h with
      | last => simp at hlines
      | cons _ h =>
          obtain ⟨other, others, rfl, hcontinued⟩ := ih (hlines ▸ h)
          exact ⟨other, others, rfl, hcontinued⟩

theorem Continued.map_trim (h : Continued more lines longer) :
    longer.map trim = lines.map trim ++ more.map trim := by
  induction h with
  | last _ hpad => simp [trim_append_blank _ hpad]
  | cons line _ ih => simp [ih]

/-- The blanks behind the last line do not matter for what it is read as. -/
theorem Continued.optionLines {closing other : Text} {rest others : List Text}
    (h : Continued more (closing :: rest) (other :: others)) :
    trim other = trim closing ∧
      optionLines (other :: others) = optionLines (closing :: rest) ++ more.map trim := by
  cases h with
  | last _ hpad =>
      have htrim := trim_append_blank closing hpad
      refine ⟨htrim, ?_⟩
      simp [Table.optionLines, TableLine.ofLine, htrim]
  | cons _ h =>
      refine ⟨rfl, ?_⟩
      simp [Table.optionLines, h.map_trim]

/-- The counters go from the lines and from those below them alike. -/
protected theorem Continued.withoutCounter (h : Continued more lines longer) :
    Continued (more.map withoutCounter) (lines.map withoutCounter) (longer.map withoutCounter) := by
  induction h with
  | @last last pad hlast hpad =>
      have hends : ∀ c ∈ pad, EndsSetting c := fun c hc => endsSetting_of_isBlank (hpad c hc)
      rw [List.map_singleton, List.map_cons, withoutCounter_append hends (.inr hlast)]
      exact .last (getLast?_withoutCounter hlast) hpad
  | cons line _ ih => exact .cons (withoutCounter line) ih

theorem Continued.append_left (h : Continued more lines longer) (front : List Text) :
    Continued more (front ++ lines) (front ++ longer) := by
  induction front with
  | nil => exact h
  | cons line front ih => exact .cons line ih

/-- Each line below stands behind a newline. -/
theorem Continued.unlines (h : Continued more lines longer) : ∃ pad,
    (∀ c ∈ pad, isBlank c = true) ∧
      unlines longer = unlines lines ++ (pad ++ more.flatMap ('\n' :: ·)) := by
  induction h with
  | @last last pad _ hpad =>
      refine ⟨pad, hpad, ?_⟩
      rw [unlines_cons_flatMap, unlines_cons_flatMap, List.flatMap_nil, List.append_nil,
        List.append_assoc]
  | @cons line lines longer h ih =>
      obtain ⟨pad, hpad, heq⟩ := ih
      obtain ⟨hlines, hlonger⟩ : lines ≠ [] ∧ longer ≠ [] := by cases h <;> simp
      refine ⟨pad, hpad, ?_⟩
      rw [unlines_cons_of_ne_nil line hlines, unlines_cons_of_ne_nil line hlonger, heq]
      simp

end

/-- Up to blanks, the lines below are those of the text that are not blank. -/
theorem map_trim_linesBehind (more : Text) :
    (linesBehind more).map trim = ((lines more).map trim).filter (! ·.isEmpty) := by
  obtain ⟨pad, hpad, hmore⟩ := exists_trimRight more
  obtain ⟨front, last, hlines⟩ : ∃ front last, lines (trimRight more) = front ++ [last] :=
    ⟨_, _, (List.dropLast_append_getLast (splitWhere_ne_nil _ _)).symm⟩
  obtain ⟨gap, blanks, hgap, hblanks, hpadded⟩ := exists_lines_append_blank hlines hpad
  rw [← hmore] at hpadded
  have hfilter (pieces : List Text) : (pieces.filter (! isBlankText ·)).map trim =
      (pieces.map trim).filter (! ·.isEmpty) := by
    simp only [isBlankText_eq, List.filter_map]
    rfl
  have hgone : (blanks.map trim).filter (! ·.isEmpty) = [] := by
    rw [← hfilter, List.filter_eq_nil_iff.mpr fun line hline => by simp [hblanks line hline]]
    rfl
  have hsame : (lines more).map trim = (lines (trimRight more)).map trim ++ blanks.map trim := by
    rw [hpadded, hlines]
    simp [trim_append_blank last hgap]
  rw [linesBehind, hfilter, hsame, List.filter_append, hgone, List.append_nil]

/-! ## What is read of both -/

/-- A definition is over with a line from the closing parenthesis on that ends in a semicolon. -/
def IsOver (text : Text) : Prop :=
  ∃ line ∈ optionLines (closingLines text), endsWith ";" line = true

instance (text : Text) : Decidable (IsOver text) :=
  inferInstanceAs (Decidable (∃ line ∈ optionLines (closingLines text), endsWith ";" line = true))

/-- Behind a line that ends in a semicolon no line belongs to the options. -/
theorem splitTrailer_append_fst {lines : List Text} (h : ∃ line ∈ lines, endsWith ";" line = true)
    (more : List Text) : (splitTrailer (lines ++ more)).1 = (splitTrailer lines).1 := by
  induction lines with
  | nil => simp at h
  | cons line lines ih =>
      rw [List.cons_append, splitTrailer, splitTrailer]
      split
      · rfl
      · rename_i hends
        obtain ⟨last, hmem, hlast⟩ := h
        rcases List.mem_cons.mp hmem with rfl | hmem
        · exact absurd hlast hends
        · exact congrArg (line :: ·) (ih ⟨last, hmem, hlast⟩)

section

variable {text first closing : Text} {body rest : List Text}

/-- A text below a definition adds its lines to those from the closing parenthesis on. -/
theorem HasLines.append (h : HasLines text first body closing rest) (more : Text) :
    ∃ other others, HasLines (text ++ '\n' :: more) first body other others ∧
      Continued (linesBehind more) (closing :: rest) (other :: others) := by
  have hne : trim text ≠ [] := by
    intro hnil
    have hlines := h.lines
    rw [definitionLines, hnil] at hlines
    cases hlines
  have hcontinued := continued_definitionLines hne more
  rw [h.lines, ← List.cons_append] at hcontinued
  obtain ⟨other, others, hlonger, hclosing⟩ := hcontinued.exists_append
  refine ⟨other, others, ⟨hlonger, h.body, ?_⟩, hclosing⟩
  rw [hclosing.optionLines.1]
  exact h.closing

end

/-- The table with another definition. -/
def withDefinition (table : Table) (definition : Text) : Table := { table with definition }

/-- What is read of a text that is over does not change with the lines below it. -/
theorem parse_append {text : Text} {table : Table} (h : parse text = .ok table)
    (hover : IsOver text) (more : Text) : parse (text ++ '\n' :: more) =
      .ok (table.withDefinition (trim (text ++ '\n' :: more))) := by
  obtain ⟨first, body, closing, rest, hlines, hname, hdraft, hcolumns, hoptions, -⟩ :=
    parse_eq_ok_iff_hasLines.mp h
  obtain ⟨other, others, hlonger, hcontinued⟩ := hlines.append more
  rw [IsOver, hlines.closingLines_eq] at hover
  refine parse_eq_ok_iff_hasLines.mpr ⟨first, body, other, others, hlonger, hname, hdraft, hcolumns,
    ?_, rfl⟩
  rw [hcontinued.optionLines.2, splitTrailer_append_fst hover]
  exact hoptions

/-! ## What becomes of it -/

theorem trim_isInfix_closeStatement {statement line : Text} (h : line <:+: statement) :
    trim line <:+: closeStatement statement := by
  have hinfix : trim line <:+: trimRight statement :=
    isInfix_trimRight ((trim_isInfix line).trans h) getLast?_trim
  rw [closeStatement]
  split
  · exact hinfix
  · exact hinfix.trans (List.prefix_append _ _).isInfix

theorem length_closeStatement (statement : Text) :
    (trimRight statement).length ≤ (closeStatement statement).length ∧
      (closeStatement statement).length ≤ statement.length + 1 := by
  have hshorter : (trimRight statement).length ≤ statement.length :=
    (List.rdropWhile_prefix isBlank statement).length_le
  rw [closeStatement]
  split
  · exact ⟨le_refl _, by omega⟩
  · have hsemicolon : ";".toList.length = 1 := rfl
    rw [List.length_append, hsemicolon]
    exact ⟨by omega, by omega⟩

/-- A statement with lines below it is the same just if these are blank. -/
theorem closeStatement_append_iff {statement pad : Text} (hpad : ∀ c ∈ pad, isBlank c = true)
    (more : List Text) :
    closeStatement (statement ++ (pad ++ more.flatMap ('\n' :: ·))) = closeStatement statement ↔
      ∀ line ∈ more, isBlankText line = true := by
  constructor
  · intro hsame line hline
    by_contra hvisible
    obtain ⟨c, hc, hblank⟩ : ∃ c ∈ line, isBlank c = false := by
      simpa [isBlankText] using hvisible
    -- the newline and that character are more than the semicolon that may be added
    obtain ⟨first, more, rfl⟩ := List.exists_cons_of_ne_nil (List.ne_nil_of_mem hline)
    have hmem : c ∈ first ++ more.flatMap ('\n' :: ·) := by
      rcases List.mem_cons.mp hline with rfl | hline
      · exact List.mem_append_left _ hc
      · exact List.mem_append_right _
          (List.mem_flatMap.mpr ⟨line, hline, List.mem_cons_of_mem _ hc⟩)
    have hbelow := trimRight_ne_nil hmem hblank
    have htrim := trimRight_append (trimRight_ne_nil (List.mem_cons_of_mem '\n' hmem) hblank)
      (statement ++ pad)
    rw [trimRight_cons hbelow, List.append_assoc] at htrim
    have hlonger := (length_closeStatement
      (statement ++ (pad ++ '\n' :: (first ++ more.flatMap ('\n' :: ·))))).1
    have hshorter := (length_closeStatement statement).2
    have hpositive := List.length_pos_of_ne_nil hbelow
    rw [List.flatMap_cons, List.cons_append] at hsame
    rw [hsame, htrim] at hlonger
    simp only [List.length_append, List.length_cons] at hlonger
    omega
  · intro hblank
    have hbelow : ∀ c ∈ pad ++ more.flatMap ('\n' :: ·), isBlank c = true := by
      intro c hc
      rcases List.mem_append.mp hc with hc | hc
      · exact hpad c hc
      · obtain ⟨line, hline, hc⟩ := List.mem_flatMap.mp hc
        rcases List.mem_cons.mp hc with rfl | hc
        · rfl
        · exact List.all_eq_true.mp (hblank line hline) c hc
    rw [closeStatement, trimRight_append_of_blank _ hbelow, closeStatement]

/-- What holds of lines up to blanks, and of no line, holds of the lines below a definition just if
it holds of all lines of the text there. -/
theorem forall_mem_linesBehind {p : Text → Prop} (hnone : p []) (more : Text) :
    (∀ line ∈ linesBehind more, p (trim line)) ↔ ∀ line ∈ lines more, p (trim line) := by
  rw [← List.forall_mem_map (f := trim), ← List.forall_mem_map (f := trim), map_trim_linesBehind]
  constructor
  · intro h line hline
    cases line with
    | nil => exact hnone
    | cons c line => exact h _ (List.mem_filter.mpr ⟨hline, rfl⟩)
  · exact fun h line hline => h line (List.mem_filter.mp hline).1

theorem isBlankText_withoutCounter_trim (line : Text) :
    isBlankText (withoutCounter (trim line)) = isBlankText (withoutCounter line) := by
  rw [isBlankText_eq, isBlankText_eq, trim_withoutCounter_trim]

/-- The statement that creates a table has the lines below its definition, without their counters.
It is the same as without those just if nothing is left of them. -/
theorem createStatement_append {text : Text} {table : Table} (h : parse text = .ok table)
    (more : Text) :
    let longer := table.withDefinition (trim (text ++ '\n' :: more))
    (longer.createStatement = table.createStatement ↔
        ∀ line ∈ lines more, isBlankText (withoutCounter line) = true) ∧
      ∀ line ∈ lines more, trim (withoutCounter line) <:+: longer.createStatement := by
  intro longer
  obtain ⟨first, body, closing, rest, hlines, -, -, -, -, hdefinition⟩ :=
    parse_eq_ok_iff_hasLines.mp h
  obtain ⟨other, others, hlonger, hcontinued⟩ := hlines.append more
  have hcreated : Continued ((linesBehind more).map withoutCounter)
      (createdLines first body (closing :: rest)) (createdLines first body (other :: others)) :=
    hcontinued.withoutCounter.append_left (first :: closeLast (withoutForeignKeys body))
  obtain ⟨pad, hpad, hunlines⟩ := hcreated.unlines
  have hrewritten : longer.definition = trim (text ++ '\n' :: more) := rfl
  rw [createStatement_eq_createdLines hdefinition hlines,
    createStatement_eq_createdLines hrewritten hlonger, hunlines]
  constructor
  · have hiff := forall_mem_linesBehind (p := fun line => isBlankText (withoutCounter line) = true)
      rfl more
    simp only [isBlankText_withoutCounter_trim] at hiff
    rw [closeStatement_append_iff hpad, List.forall_mem_map, hiff]
  · have hiff := forall_mem_linesBehind (p := fun line => trim (withoutCounter line) <:+:
      closeStatement (unlines (createdLines first body (closing :: rest)) ++
        (pad ++ ((linesBehind more).map withoutCounter).flatMap ('\n' :: ·)))) List.nil_infix more
    simp only [trim_withoutCounter_trim] at hiff
    refine hiff.mp fun line hline => trim_isInfix_closeStatement ?_
    have hbelow := isInfix_flatMap_newline (List.mem_map_of_mem (f := withoutCounter) hline)
    exact hbelow.trans ((List.suffix_append _ _).trans (List.suffix_append _ _)).isInfix

end Table

namespace TableComparison

variable (c : TableComparison) (first second : Text)

/-- The comparison of the same tables, written in other ways. -/
def withDefinitions : TableComparison :=
  { c with old := c.old.withDefinition first, new := c.new.withDefinition second }

theorem additionsBehind_withDefinitions (placed : List Text) (columns : List Column) :
    (c.withDefinitions first second).additionsBehind placed columns =
      c.additionsBehind placed columns := by
  induction columns generalizing placed with
  | nil => rfl
  | cons column columns ih =>
      rw [additionsBehind, additionsBehind, ih]
      rfl

/-- How tables are written makes no difference for the steps that turn one into the other. -/
theorem steps_withDefinitions : (c.withDefinitions first second).steps = c.steps := by
  have hadditions : (c.withDefinitions first second).columnAdditions = c.columnAdditions :=
    additionsBehind_withDefinitions c first second _ _
  rw [steps, steps, hadditions]
  rfl

end TableComparison

namespace Table

/-- A text below a definition that is over makes no difference for what is read of it, nor for the
steps that change the table or another one into it. The statement that creates the table has its
lines though, and is the same just if these are blank or consist of settings of the row counter. -/
theorem parse_append_below {text : Text} {table : Table} (h : parse text = .ok table)
    (hover : IsOver text) (more : Text) : ∃ longer, parse (text ++ '\n' :: more) = .ok longer ∧
      longer = table.withDefinition longer.definition ∧
      (∀ c : TableComparison, c.old = table → { c with old := longer }.steps = c.steps) ∧
      (∀ c : TableComparison, c.new = table → { c with new := longer }.steps = c.steps) ∧
      (longer.createStatement = table.createStatement ↔
        ∀ line ∈ lines more, isBlankText (withoutCounter line) = true) ∧
      ∀ line ∈ lines more, trim (withoutCounter line) <:+: longer.createStatement := by
  refine ⟨_, parse_append h hover more, rfl, ?_, ?_, createStatement_append h more⟩
  · rintro c rfl
    exact c.steps_withDefinitions _ c.new.definition
  · rintro c rfl
    exact c.steps_withDefinitions c.old.definition _

/-- A table of one column, which is over with its last line. -/
def oneColumn : Table where
  name := "t".toList
  columns := [⟨"a".toList, "int".toList, 0⟩]
  indexes := []
  primaryKey := none
  foreignKeys := []
  checks := []
  options := []
  definition := unlines ["CREATE TABLE t (", "  a int", ");"]

/-- A statement below the definition gets into the statement that creates the table. -/
theorem parse_append_below_oneColumn : parse oneColumn.definition = .ok oneColumn ∧
    IsOver oneColumn.definition ∧
    ∃ longer, parse (oneColumn.definition ++ '\n' :: "DROP TABLE x".toList) = .ok longer ∧
      longer.columns = oneColumn.columns ∧ longer.createStatement ≠ oneColumn.createStatement ∧
      "DROP TABLE x".toList <:+: longer.createStatement := by
  have hparse : parse oneColumn.definition = .ok oneColumn := by decide +kernel
  have hover : IsOver oneColumn.definition := by decide +kernel
  refine ⟨hparse, hover, ?_⟩
  obtain ⟨longer, hlonger, hsame, -, -, hiff, hinfix⟩ :=
    parse_append_below hparse hover "DROP TABLE x".toList
  refine ⟨longer, hlonger, hsame ▸ rfl, ?_, ?_⟩
  · rw [ne_eq, hiff]
    decide +kernel
  · have hline : "DROP TABLE x".toList ∈ lines "DROP TABLE x".toList := by decide
    have hkept : trim (withoutCounter "DROP TABLE x".toList) = "DROP TABLE x".toList := by
      decide +kernel
    exact hkept ▸ hinfix _ hline

end Table

end SchemaMigration
