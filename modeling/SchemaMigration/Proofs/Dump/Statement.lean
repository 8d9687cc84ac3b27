import SchemaMigration.Dump.Definition
import SchemaMigration.Proofs.Dump.LinePadding
import SchemaMigration.Proofs.Text.Piece

/-!
# Statements of a dump

What is cut into statements are the lines without the blanks at their ends. Where a statement and
its delimiter are complete, what follows on a new line is cut on its own; and the blanks in front
of a text stand in front of its first statement, if they stand anywhere.

## Main Definitions

* `statements_of_isPadded` - spaces at the end of a line do not matter
* `standing` - the delimiter in force and the open lines behind some lines
* `EndsStatement` - a text behind which nothing is open
* `statements_append` - what follows such a text on a new line is cut on its own
* `recognised_append_blank` - blanks in front of a text do not matter for its definitions
-/

namespace SchemaMigration.Dump

open Text

/-- What is cut into statements are the lines without the blanks at their ends. -/
theorem statementsFrom_map_trimRight (delimiter : Text) (held lines : List Text) :
    statementsFrom delimiter held (lines.map trimRight) = statementsFrom delimiter held lines := by
  induction lines generalizing delimiter held with
  | nil => rfl
  | cons line lines ih =>
      simp only [List.map_cons, statementsFrom, trim_trimRight, trimRight_trimRight, ih]

/-- Spaces at the end of a line do not matter for the statements. -/
theorem statements_of_isPadded {text padded : Text} (h : IsPadded text padded) :
    statements padded = statements text := by
  obtain ⟨front, pad, behind, hpad, hbehind, rfl, rfl⟩ := h
  have hblank : ∀ c ∈ pad, isBlank c = true ∧ c ≠ '\n' := by
    intro c hc
    rcases hpad c hc with rfl | rfl <;> decide
  have hlines := map_trimRight_lines_append front hblank
  have hwhole : (lines (front ++ (pad ++ behind))).map trimRight
      = (lines (front ++ behind)).map trimRight := by
    rcases hbehind with rfl | hhead
    · rwa [List.append_nil, List.append_nil]
    · obtain ⟨rest, rfl⟩ := List.head?_eq_some_iff.mp hhead
      rw [← List.append_assoc, lines_append_cons, lines_append_cons, List.map_append, hlines,
        List.map_append]
  rw [statements, statements, ← statementsFrom_map_trimRight, hwhole, statementsFrom_map_trimRight]

/-! ## Texts behind which nothing is open -/

/-- The delimiter in force and the lines of an open statement behind some lines. -/
def standing : (delimiter : Text) → (held lines : List Text) → Text × List Text
  | delimiter, held, [] => (delimiter, held)
  | delimiter, held, line :: rest =>
    match delimiterDirective? (trim line) with
    | some next => standing next [] rest
    | none =>
      if held.isEmpty && isSeparator delimiter (trim line) then standing delimiter [] rest
      else if endsWith delimiter (trim line) then standing delimiter [] rest
      else standing delimiter (held ++ [trimRight line]) rest

/-- A text behind which no statement is open and the semicolon is the delimiter. -/
def EndsStatement (text : Text) : Prop := standing semicolon [] (lines text) = (semicolon, [])

instance (text : Text) : Decidable (EndsStatement text) :=
  inferInstanceAs (Decidable (standing semicolon [] (lines text) = (semicolon, [])))

/-- Lines behind which no statement is open are cut apart from what follows. -/
theorem statementsFrom_append {delimiter next : Text} {held front : List Text}
    (h : standing delimiter held front = (next, [])) (rest : List Text) :
    statementsFrom delimiter held (front ++ rest)
      = statementsFrom delimiter held front ++ statementsFrom next [] rest := by
  induction front generalizing delimiter held with
  | nil =>
      obtain ⟨rfl, rfl⟩ := Prod.mk.inj h
      rfl
  | cons line front ih =>
      rw [standing] at h
      simp only [List.cons_append, statementsFrom]
      cases hdirective : delimiterDirective? (trim line) with
      | some other =>
          simp only [hdirective] at h ⊢
          rw [ih h, List.append_assoc]
      | none =>
          simp only [hdirective] at h ⊢
          split at h
          · rename_i hseparator
            rw [if_pos hseparator, if_pos hseparator, ih h]
          · rename_i hseparator
            rw [if_neg hseparator, if_neg hseparator]
            split at h
            · rename_i hends
              rw [if_pos hends, if_pos hends, ih h, List.cons_append]
            · rename_i hends
              rw [if_neg hends, if_neg hends, ih h]

/-- What follows on a new line is cut on its own, if nothing is open. -/
theorem statements_append {front : Text} (h : EndsStatement front) (rest : Text) :
    statements (front ++ '\n' :: rest) = statements front ++ statements rest := by
  rw [statements, lines_append_cons, statementsFrom_append h]
  rfl

/-! ## Blanks in front -/

/-- Lines that are not all blank are one statement at the end. -/
theorem flushStatement_cons {first : Text} (hfirst : isBlankText first = false)
    (lines : List Text) : flushStatement (first :: lines) = [unlines (first :: lines)] := by
  simp [flushStatement, hfirst]

/-- A character in front of the first open line stands in front of the first statement. -/
theorem statementsFrom_cons_held (c : Char) {first : Text} (hfirst : isBlankText first = false)
    (held lines : List Text) : statementsFrom semicolon ((c :: first) :: held) lines
      = (statementsFrom semicolon (first :: held) lines).modifyHead (c :: ·) := by
  have hcons : isBlankText (c :: first) = false := by
    rw [isBlankText, List.all_cons, ← isBlankText, hfirst, Bool.and_false]
  induction lines generalizing held with
  | nil =>
      simp only [statementsFrom]
      rw [flushStatement_cons hcons, flushStatement_cons hfirst, unlines_cons_head]
      rfl
  | cons line lines ih =>
      simp only [statementsFrom, List.isEmpty_cons, Bool.false_and, Bool.false_eq_true, if_false,
        List.cons_append]
      cases delimiterDirective? (trim line) with
      | some next =>
          simp only
          rw [flushStatement_cons hcons, flushStatement_cons hfirst, unlines_cons_head]
          rfl
      | none =>
          simp only
          -- a single semicolon is not taken off, so the statement begins as its first line does
          split
          · rw [closeStatement, if_pos rfl, closeStatement, if_pos rfl, unlines_cons_head]
            rfl
          · exact ih (held ++ [trimRight line])

/-- A blank in front of a text is left out, or stands in front of its first statement. -/
theorem statements_cons {c : Char} (hc : isBlank c = true) (text : Text) :
    statements (c :: text) = statements text ∨
      statements (c :: text) = (statements text).modifyHead (c :: ·) := by
  by_cases hnewline : c = '\n'
  · rw [hnewline, statements, lines, splitWhere_cons_of_pos rfl]
    exact .inl rfl
  · obtain ⟨line, rest, hlines⟩ :=
      List.exists_cons_of_ne_nil (splitWhere_ne_nil (· == '\n') text)
    have htrim : trim (c :: line) = trim line := by simp [trim, trimLeft, hc]
    rw [statements, statements, lines, lines, splitWhere_cons_of_neg (by simpa using hnewline),
      hlines, List.modifyHead_cons]
    simp only [statementsFrom, htrim]
    cases delimiterDirective? (trim line) with
    | some next => exact .inl rfl
    | none =>
        simp only [List.isEmpty_nil, Bool.true_and]
        split
        · exact .inl rfl
        · rename_i hseparator
          refine .inr ?_
          -- a line that separates nothing is not blank
          have hline : trimRight line ≠ [] := by
            intro hnil
            rw [← trim_trimRight, hnil] at hseparator
            exact hseparator (by simp [isSeparator, trim, trimLeft, trimRight])
          have hblank : isBlankText (trimRight line) = false := by
            rw [Bool.eq_false_iff, isBlankText]
            intro hall
            have hgone := trimRight_append_of_blank [] (List.all_eq_true.mp hall)
            rw [List.nil_append, trimRight_trimRight] at hgone
            exact hline hgone
          rw [List.nil_append, List.nil_append, trimRight_cons hline]
          split
          · rfl
          · exact statementsFrom_cons_held c hblank [] rest

theorem ofStatement?_cons {c : Char} (hc : isBlank c = true) (statement : Text) :
    Definition.ofStatement? (c :: statement) = Definition.ofStatement? statement := by
  simp [Definition.ofStatement?, Definition.subject?, trim, trimLeft, hc]

/-- Blanks in front of a text do not matter for its definitions. -/
theorem recognised_append_blank {pad : Text} (hpad : ∀ c ∈ pad, isBlank c = true) (text : Text) :
    recognised (statements (pad ++ text)) = recognised (statements text) := by
  induction pad with
  | nil => rfl
  | cons c pad ih =>
      have hc := hpad c (by simp)
      rw [← ih fun d hd => hpad d (List.mem_cons_of_mem _ hd), List.cons_append]
      rcases statements_cons hc (pad ++ text) with hsame | hhead
      · rw [hsame]
      · rw [hhead]
        cases statements (pad ++ text) with
        | nil => rfl
        | cons statement rest =>
            rw [List.modifyHead_cons, recognised, recognised, List.filterMap_cons,
              List.filterMap_cons, ofStatement?_cons hc]

end SchemaMigration.Dump
