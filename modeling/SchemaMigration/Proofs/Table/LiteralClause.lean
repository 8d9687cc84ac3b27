import SchemaMigration.Proofs.Table.Creation
import SchemaMigration.Proofs.Text.LineEnd
import SchemaMigration.Proofs.Text.PartedText

/-!
# Clauses that are read inside literals

What is looked for in column definitions and options is looked for everywhere, so it is found inside
a literal like anywhere else. None of it goes on behind a quote, so it is told stretch by stretch.

## Main Definitions

* `endsAtQuotes_mention`, `endsAtQuotes_partitioning`, `endsAtQuotes_comment` - what is looked for
* `perLine_partedText` - what is done line by line is done to each stretch for itself
* `Table.clauses_inside_literals` - what is read in the literals of a table
-/

namespace SchemaMigration

open Text

/-! ## Quotes -/

section

variable {quote : Char} (h : IsQuoteMark quote)

include h

theorem IsQuoteMark.isBlank : isBlank quote = false := by
  rcases h with rfl | rfl <;> decide

theorem IsQuoteMark.ne_newline : quote ≠ '\n' := by
  rcases h with rfl | rfl <;> decide

/-- A quote spells no letter of the keywords that are looked for. -/
theorem IsQuoteMark.spells : ∀ letter ∈ "AUTO_INCREMENT=PARTITIONBYCOMMENT".toList,
    spells letter quote = false := by
  rcases h with rfl | rfl <;> decide +kernel

theorem IsQuoteMark.stopsAt_keyword? {keyword : Text}
    (hkeyword : keyword ⊆ "AUTO_INCREMENT=PARTITIONBYCOMMENT".toList) :
    StopsAt quote (keyword? keyword) :=
  Text.stopsAt_keyword? fun letter hletter => h.spells letter (hkeyword hletter)

theorem IsQuoteMark.endsSetting : EndsSetting quote := by
  refine ⟨?_, fun letter hletter => h.spells letter ?_⟩
  · rcases h with rfl | rfl <;> decide +kernel
  · have hsubset : "AUTO_INCREMENT=".toList ⊆ "AUTO_INCREMENT=PARTITIONBYCOMMENT".toList := by
      decide
    exact hsubset hletter

theorem IsQuoteMark.ne_equals : '=' ≠ quote := by
  rcases h with rfl | rfl <;> decide

/-- Blanks at the beginning of a text do not reach a quote. -/
theorem IsQuoteMark.trimLeft_append (text rest : Text) :
    trimLeft (text ++ quote :: rest) = trimLeft text ++ quote :: rest :=
  dropWhile_append_stop h.isBlank text rest

/-- Blanks in front of a word do not either. -/
theorem IsQuoteMark.atWord?_append {text : Text} (hne : text ≠ []) (previous : Option Char)
    (rest : Text) : atWord? previous (text ++ quote :: rest) =
      (atWord? previous text).map (· ++ quote :: rest) := by
  obtain ⟨c, text, rfl⟩ := List.exists_cons_of_ne_nil hne
  have htrim := h.trimLeft_append (c :: text) rest
  rw [List.cons_append] at htrim ⊢
  rw [atWord?, atWord?, htrim]
  split <;> rfl

end

/-- Whether a word is over in front of a quote does not depend on what follows it. -/
theorem endsWord_append_cons (text : Text) (c : Char) (rest : Text) :
    endsWord (text ++ c :: rest) = endsWord (text ++ [c]) := by
  cases text <;> rfl

/-! ## What is looked for -/

/-- What stops at a quote does not begin there. -/
theorem Text.StopsAt.eq_none {stop : Char} {find : Text → Option Text} (h : StopsAt stop find)
    (hnil : find [] = none) (text : Text) : find (stop :: text) = none := by
  have happend := h.append [] text
  rwa [hnil] at happend

theorem endsAtQuotes_mention : EndsAtQuotes fun previous rest =>
    startsWord previous && (wholeKeyword? "AUTO_INCREMENT" rest).isSome where
  congr hsame text := by rw [hsame]
  quote {quote} hquote previous text := by
    have hstops : StopsAt quote (keyword? "AUTO_INCREMENT") := hquote.stopsAt_keyword? (by decide)
    rw [wholeKeyword?, hstops.eq_none rfl]
    exact Bool.and_false _
  append {quote} hquote previous text hne rest := by
    have hstops : StopsAt quote (keyword? "AUTO_INCREMENT") := hquote.stopsAt_keyword? (by decide)
    rw [wholeKeyword?, wholeKeyword?, hstops.append, hstops.append]
    cases keyword? "AUTO_INCREMENT" text with
    | none => rfl
    | some behind =>
        simp only [Option.map_some, Option.filter, endsWord_append_cons behind quote rest]
        split <;> rfl

theorem keywords?_pair (first second : Text) : keywords? [first, second] = fun text =>
    ((keyword? first text).bind blanks?).bind (keyword? second) :=
  keywords?_cons_cons first second []

theorem stopsAt_partitioning {quote : Char} (h : IsQuoteMark quote) :
    StopsAt quote (keywords? ["PARTITION", "BY"]) := by
  rw [keywords?_pair]
  exact ((h.stopsAt_keyword? (by decide)).bind (stopsAt_blanks? h.isBlank)).bind
    (h.stopsAt_keyword? (by decide))

theorem opensPartitioning_eq (previous : Option Char) (text : Text) :
    opensPartitioning previous text = ((atWord? previous text).bind fun clause =>
      (keywords? ["PARTITION", "BY"] clause).filter endsWord).isSome := rfl

theorem endsAtQuotes_partitioning : EndsAtQuotes opensPartitioning where
  congr {previous other} hsame text := by
    cases text with
    | nil => rfl
    | cons c text => rw [opensPartitioning_eq, opensPartitioning_eq, atWord?, atWord?, hsame]
  quote {quote} hquote previous text := by
    have htrim : trimLeft (quote :: text) = quote :: text := hquote.trimLeft_append [] text
    rw [opensPartitioning_eq, atWord?, htrim]
    split
    · rw [Option.bind_some, (stopsAt_partitioning hquote).eq_none rfl]
      rfl
    · rfl
  append {quote} hquote previous text hne rest := by
    rw [opensPartitioning_eq, opensPartitioning_eq, hquote.atWord?_append hne,
      hquote.atWord?_append hne]
    cases atWord? previous text with
    | none => rfl
    | some clause =>
        rw [Option.map_some, Option.map_some, Option.bind_some, Option.bind_some,
          (stopsAt_partitioning hquote).append, (stopsAt_partitioning hquote).append]
        cases keywords? ["PARTITION", "BY"] clause with
        | none => rfl
        | some behind =>
            simp only [Option.map_some, Option.filter, endsWord_append_cons behind quote rest]
            split <;> rfl

/-- Whether an equals sign, if there is one, and a quote follow. -/
def opensValue (text : Text) : Bool :=
  (after? ['\x27'] (trimLeft ((after? ['='] (trimLeft text)).getD (trimLeft text)))).isSome

theorem opensComment_eq (previous : Option Char) (text : Text) : opensComment previous text =
    (startsWord previous && (keyword? "COMMENT" text).any opensValue) := by
  rw [opensComment]
  cases keyword? "COMMENT" text <;> rfl

theorem opensValue_append {quote : Char} (h : IsQuoteMark quote) (text rest : Text) :
    opensValue (text ++ quote :: rest) = opensValue (text ++ [quote]) := by
  have hvalue (more : Text) : (after? ['='] (trimLeft (text ++ quote :: more))).getD
      (trimLeft (text ++ quote :: more)) =
        (after? ['='] (trimLeft text)).getD (trimLeft text) ++ quote :: more := by
    rw [h.trimLeft_append, (stopsAt_after? h.ne_equals).append]
    cases after? ['='] (trimLeft text) <;> rfl
  rw [opensValue, opensValue, hvalue, hvalue, h.trimLeft_append, h.trimLeft_append]
  cases trimLeft ((after? ['='] (trimLeft text)).getD (trimLeft text)) with
  | nil =>
      simp only [List.nil_append, after?]
      split <;> rfl
  | cons c behind =>
      simp only [List.cons_append, after?]
      split <;> rfl

theorem endsAtQuotes_comment : EndsAtQuotes opensComment where
  congr hsame text := by rw [opensComment_eq, opensComment_eq, hsame]
  quote {quote} hquote previous text := by
    have hstops : StopsAt quote (keyword? "COMMENT") := hquote.stopsAt_keyword? (by decide)
    rw [opensComment_eq, hstops.eq_none rfl]
    exact Bool.and_false _
  append {quote} hquote previous text hne rest := by
    have hstops : StopsAt quote (keyword? "COMMENT") := hquote.stopsAt_keyword? (by decide)
    rw [opensComment_eq, opensComment_eq, hstops.append, hstops.append]
    cases keyword? "COMMENT" text with
    | none => rfl
    | some behind =>
        simp only [Option.map_some, Option.any_some, opensValue_append hquote behind rest]

/-! ## Line by line -/

/-- A text with something done to each of its lines. -/
def perLine (f : Text → Text) (text : Text) : Text := unlines ((lines text).map f)

/-- A line that is parted at a character ends one list of lines and begins another. -/
theorem unlines_around (before : List Text) (last : Text) (c : Char) (first : Text)
    (behind : List Text) : unlines (before ++ (last ++ c :: first) :: behind) =
      unlines (before ++ [last]) ++ c :: unlines (first :: behind) := by
  by_cases hbefore : before = []
  · rw [hbefore, List.nil_append, unlines_append_head, unlines_cons_head]
    rfl
  · rw [unlines_append hbefore (by simp), unlines_append hbefore (by simp), unlines_append_head,
      unlines_cons_head, List.append_assoc]
    rfl

/-- What does not reach over a character is done in each line in front of it and behind it. -/
theorem perLine_append {f : Text → Text} {c : Char} (hc : c ≠ '\n')
    (hf : ∀ front back, f (front ++ c :: back) = f front ++ c :: f back) (front back : Text) :
    perLine f (front ++ c :: back) = perLine f front ++ c :: perLine f back := by
  obtain ⟨before, last, hfront⟩ : ∃ before last, lines front = before ++ [last] :=
    ⟨_, _, (List.dropLast_append_getLast (splitWhere_ne_nil _ front)).symm⟩
  obtain ⟨first, behind, hback⟩ : ∃ first behind, lines back = first :: behind :=
    List.exists_cons_of_ne_nil (splitWhere_ne_nil _ back)
  have hwhole : unlines (before ++ (last ++ c :: first) :: behind) = front ++ c :: back := by
    rw [unlines_around, ← hfront, ← hback, unlines_lines, unlines_lines]
  have hfrontLines : ∀ line ∈ before ++ [last], '\n' ∉ line := fun line hline =>
    newline_notMem_of_mem_lines (hfront ▸ hline)
  have hbackLines : ∀ line ∈ first :: behind, '\n' ∉ line := fun line hline =>
    newline_notMem_of_mem_lines (hback ▸ hline)
  have hlines : lines (front ++ c :: back) = before ++ (last ++ c :: first) :: behind := by
    rw [← hwhole]
    refine lines_unlines (by simp) (List.forall_mem_append.mpr
      ⟨(List.forall_mem_append.mp hfrontLines).1, List.forall_mem_cons.mpr ⟨?_, ?_⟩⟩)
    · have hlast := hfrontLines last (by simp)
      have hfirst := hbackLines first (by simp)
      simp [hlast, hfirst, hc.symm]
    · exact (List.forall_mem_cons.mp hbackLines).2
  rw [perLine, perLine, perLine, hlines, hfront, hback, List.map_append, List.map_append,
    List.map_cons, List.map_cons, List.map_cons, hf, unlines_around]
  rfl

theorem withoutCounter_quote {quote : Char} (h : IsQuoteMark quote) (front back : Text) :
    withoutCounter (front ++ quote :: back) =
      withoutCounter front ++ quote :: withoutCounter back := by
  have hstarts : startsWord (some quote) = startsWord none := startsWord_quote h
  have hnone (previous : Option Char) : counterSetting? previous (quote :: back) = none := by
    have htrim : trimLeft (quote :: back) = quote :: back := h.trimLeft_append [] back
    rw [counterSetting?_eq, atWord?, htrim]
    split
    · rw [Option.bind_some, behindSetting?_cons h.endsSetting]
      rfl
    · rfl
  rw [withoutCounter_eq, withoutCounterFrom_append h.endsSetting (.inl h.isBlank),
    withoutCounterFrom_of_none (hnone _), withoutCounterFrom_congr hstarts, ← withoutCounter_eq,
    ← withoutCounter_eq]

/-- The row counter is taken out of each stretch of a text for itself. -/
theorem perLine_partedText {p : PartedText} (hp : p.WellFormed) :
    perLine withoutCounter p.text = (p.map (perLine withoutCounter)).text := by
  have happend {quote : Char} (hquote : IsQuoteMark quote) (front back : Text) :
      perLine withoutCounter (front ++ quote :: back) =
        perLine withoutCounter front ++ quote :: perLine withoutCounter back :=
    perLine_append hquote.ne_newline (withoutCounter_quote hquote) front back
  induction p with
  | bare front => rfl
  | opened front quote inside => exact happend hp.2.1 front inside
  | closed front quote inside rest ih =>
      obtain ⟨-, hquote, -, -, hrest⟩ := hp
      rw [PartedText.text, happend hquote, happend hquote, ih hrest]
      rfl

/-! ## Blanks at the ends -/

theorem Literal.IsRegular.behind {literal : Literal} (h : literal.IsRegular) (text : Text) :
    (literal.behind text).IsRegular := by
  induction text generalizing literal with
  | nil => exact h
  | cons c text ih => exact ih (h.next c)

/-- Blanks neither open a literal nor close one. -/
theorem Literal.IsRegular.behind_blank {literal : Literal} (h : literal.IsRegular) {pad : Text}
    (hpad : ∀ c ∈ pad, isBlank c = true) : literal.behind pad = .outside ↔ literal = .outside := by
  induction pad generalizing literal with
  | nil => exact Iff.rfl
  | cons c pad ih =>
      obtain ⟨hc, hrest⟩ := List.forall_mem_cons.mp hpad
      have hnot (d : Char) (hd : isBlank d = false) : c ≠ d := by
        rintro rfl
        simp [hc] at hd
      rw [Literal.behind_cons, ih (h.next c) hrest]
      cases literal with
      | outside => simp [Literal.next, hnot '\x27' (by decide), hnot '\x22' (by decide)]
      | inside quote =>
          have hquote : c ≠ quote := by
            rcases h with rfl | rfl <;> exact hnot _ (by decide)
          simp [Literal.next, hnot '\\' (by decide), hquote]
      | escaped quote => simp [Literal.next]

/-- Without the blanks at its ends, a text ends outside literals just if it did before. -/
theorem behind_trim (text : Text) :
    Literal.outside.behind (trim text) = .outside ↔ Literal.outside.behind text = .outside := by
  obtain ⟨front, back, htext, hfront, hback⟩ := exists_trim text
  have hbegin : Literal.outside.behind front = .outside :=
    (Literal.isRegular_outside.behind_blank hfront).mpr rfl
  conv_rhs => rw [htext, Literal.behind_append, Literal.behind_append, hbegin,
    (Literal.isRegular_outside.behind _).behind_blank hback]

namespace Table

/-- Options are parted nowhere if none of the stretches has a partitioning clause, and otherwise
inside a literal just if the first stretch that has one is inside. -/
theorem baseOptions_of_stretches {table : Table} {p : PartedText} (hp : p.WellFormed)
    (htext : p.text = table.options) :
    ((∀ stretch ∈ p.stretches, occurs opensPartitioning stretch.text = false) →
      table.partitioning = []) ∧
    ∀ stretch ∈ p.stretches.find? fun stretch => occurs opensPartitioning stretch.text,
      (Literal.outside.behind table.baseOptions = .outside ↔ stretch.isInside = false) := by
  have hsplit := PartedText.splitAtMatch?_text endsAtQuotes_partitioning hp
  rw [htext] at hsplit
  constructor
  · intro hnone
    have hfind : p.stretches.find? (fun stretch => occurs opensPartitioning stretch.text) = none :=
      List.find?_eq_none.mpr (by simpa using hnone)
    rw [hfind, Option.map_none, Option.map_eq_none_iff] at hsplit
    rw [partitioning, hsplit]
  · intro stretch hstretch
    rw [Option.mem_def.mp hstretch, Option.map_some] at hsplit
    obtain ⟨⟨base, clause⟩, hfound, hbase⟩ := Option.map_eq_some_iff.mp hsplit
    rw [baseOptions, hfound]
    refine (behind_trim base).trans ?_
    cases hinside : stretch.isInside <;> simpa [hinside] using hbase

/-! ## The statement that creates a table -/

/-- The lines of the statement that creates a table, up to the closing parenthesis. -/
def createdHead (text : Text) : List Text :=
  (definitionLines text).take 1 ++ closeLast (withoutForeignKeys (bodyLines text))

/-- What stands from the closing parenthesis on is created as it is, without the row counter. -/
theorem createStatement_eq_closeStatement {text : Text} {table : Table}
    (h : parse text = .ok table) {p : PartedText} (hp : p.WellFormed)
    (htext : p.text = unlines (closingLines text)) : table.createStatement =
      closeStatement (unlines (createdHead text) ++
        '\n' :: (p.map (perLine withoutCounter)).text) := by
  obtain ⟨first, body, closing, rest, hlines, -, -, -, -, hdefinition⟩ :=
    parse_eq_ok_iff_hasLines.mp h
  have hhead : createdHead text = first :: closeLast (withoutForeignKeys body) := by
    rw [createdHead, hlines.lines, hlines.bodyLines_eq]
    rfl
  have htrailer : lines p.text = closing :: rest := by
    rw [htext, hlines.closingLines_eq]
    exact lines_unlines (by simp) fun line hline =>
      newline_notMem_of_mem (hlines.mem (by simp_all))
  have hcreated : createdLines first body (closing :: rest) =
      createdHead text ++ (closing :: rest).map withoutCounter := by
    rw [createdLines, hhead, List.cons_append]
  have hlast : unlines ((closing :: rest).map withoutCounter) =
      (p.map (perLine withoutCounter)).text := by
    rw [← perLine_partedText hp, perLine, htrailer]
  rw [createStatement_eq_createdLines hdefinition hlines, ← hlast,
    ← unlines_append (by simp [hhead]) (by simp), ← hcreated]

/-- What is read inside literals. Every text is parted by its literals. A column numbers its rows,
and options set a comment, if one of the stretches between quotes says so, inside a literal or not.
Options are parted from the partitioning clause inside a literal just if the first stretch that has
such a clause is inside one. And the statement that creates a table has what each literal holds
without the row counter. -/
theorem clauses_inside_literals {text : Text} {table : Table} (h : parse text = .ok table)
    {p : PartedText} (hp : p.WellFormed) :
    (∀ part : Text, ∃ q : PartedText, q.WellFormed ∧ q.text = part) ∧
    (∀ column ∈ table.columns, p.text = column.definition → column.isAutoIncrement =
      p.stretches.any fun stretch => mentionsAutoIncrement stretch.text) ∧
    (p.text = table.baseOptions → table.hasComment =
      p.stretches.any fun stretch => occurs opensComment stretch.text) ∧
    (p.text = table.options →
      ((∀ stretch ∈ p.stretches, occurs opensPartitioning stretch.text = false) →
        table.partitioning = []) ∧
      ∀ stretch ∈ p.stretches.find? fun stretch => occurs opensPartitioning stretch.text,
        (Literal.outside.behind table.baseOptions = .outside ↔ stretch.isInside = false)) ∧
    (p.text = unlines (closingLines text) → table.createStatement =
      closeStatement (unlines (createdHead text) ++
        '\n' :: (p.map (perLine withoutCounter)).text)) := by
  refine ⟨exists_partedText, fun column _ heq => ?_, fun heq => ?_, fun heq => ?_, fun heq => ?_⟩
  · rw [Column.isAutoIncrement, ← heq]
    exact PartedText.occurs_text endsAtQuotes_mention hp
  · rw [hasComment, ← heq]
    exact PartedText.occurs_text endsAtQuotes_comment hp
  · exact baseOptions_of_stretches hp heq
  · exact createStatement_eq_closeStatement h hp heq

/-- A table with a clause of each kind in its literals. -/
def quotedClausesText : Text := unlines ["CREATE TABLE t (".toList,
  "  a varchar(9) COMMENT 'AUTO_INCREMENT'".toList,
  ") CONNECTION=\"COMMENT='x\" PASSWORD='y PARTITION BY z AUTO_INCREMENT=5';".toList]

/-- The definition of its column. -/
def quotedDefinition : PartedText :=
  .closed "varchar(9) COMMENT " '\x27' "AUTO_INCREMENT" (.bare [])

/-- Its options, from what stands in front of them to what stands behind. -/
def quotedOptions (front behind : Text) : PartedText :=
  .closed (front ++ "CONNECTION=") '\x22' "COMMENT='x"
    (.closed " PASSWORD=" '\x27' "y PARTITION BY z AUTO_INCREMENT=5" (.bare behind))

/-- Its options in front of the clause, which end inside a literal. -/
def quotedBase : PartedText :=
  .closed "CONNECTION=" '\x22' "COMMENT='x" (.opened " PASSWORD=" '\x27' "y")

/-- The table that is read. -/
def quotedClausesTable : Table where
  name := "t"
  columns := [⟨"a", quotedDefinition.text, 0⟩]
  indexes := []
  primaryKey := none
  foreignKeys := []
  checks := []
  options := (quotedOptions [] []).text
  definition := quotedClausesText

/-- All of them are read, and the row counter goes. -/
theorem clauses_inside_literals_quotedClausesText :
    parse quotedClausesText = .ok quotedClausesTable ∧
    (∀ column ∈ quotedClausesTable.columns, column.isAutoIncrement = true) ∧
    quotedClausesTable.hasComment = true ∧
    Literal.outside.behind quotedClausesTable.baseOptions ≠ .outside ∧
    quotedClausesTable.createStatement = unlines ["CREATE TABLE t (".toList,
      "  a varchar(9) COMMENT 'AUTO_INCREMENT'".toList,
      ") CONNECTION=\"COMMENT='x\" PASSWORD='y PARTITION BY z';".toList] := by
  have hparse : parse quotedClausesText = .ok quotedClausesTable := by decide +kernel
  have hdefinition : quotedDefinition.WellFormed := by decide +kernel
  have hbase : quotedBase.WellFormed := by decide +kernel
  have hoptions : (quotedOptions [] []).WellFormed := by decide +kernel
  have htrailer : (quotedOptions ") " ";").WellFormed := by decide +kernel
  refine ⟨hparse, ?_, ?_, ?_, ?_⟩
  · intro column hcolumn
    rw [(clauses_inside_literals hparse hdefinition).2.1 column hcolumn (by
      rw [List.mem_singleton.mp hcolumn])]
    decide +kernel
  · rw [(clauses_inside_literals hparse hbase).2.2.1 (by decide +kernel)]
    decide +kernel
  · rw [Ne, ((clauses_inside_literals hparse hoptions).2.2.2.1 rfl).2
      ⟨true, "y PARTITION BY z AUTO_INCREMENT=5'"⟩ (by decide +kernel)]
    exact Bool.noConfusion
  · rw [(clauses_inside_literals hparse htrailer).2.2.2.2 (by decide +kernel)]
    decide +kernel

end Table

end SchemaMigration
