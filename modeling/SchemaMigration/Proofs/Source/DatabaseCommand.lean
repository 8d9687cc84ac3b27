import SchemaMigration.Proofs.Dump.Delimiter
import SchemaMigration.Proofs.Text.Piece
import SchemaMigration.Proofs.Text.Recogniser
import SchemaMigration.Source.Scratch

/-!
# Commands that name a database

A script is searched for commands that would change another database than the scratch one. They
are looked for at its beginning and behind every semicolon, so what is found is told from the
parts between semicolons; and a command is told from the first two words of a part. As long as
semicolons are the only delimiter, every statement begins at the beginning of a part.

## Main Definitions

* `LeadsCommand` - a text that begins with such a command
* `commandWords` - the same told from the words of the text
* `parts` - what stands between the semicolons of a script
* `isSome_dangerousCommand?_iff` - which scripts have a command that is found
* `Dump.KeepsSemicolons` - no directive sets another delimiter than semicolons
* `Dump.exists_part_of_mem_statements` - a statement that begins with a command begins a part

## Design Notes

A statement is not the text it was read from: blanks at the ends of its lines are left out, and so
is a delimiter of several semicolons. Neither changes its first words, so they are what the
statement and the text have in common.
-/

namespace SchemaMigration

open Text

/-- A text begins with a command that names the database to be changed, behind any blanks. -/
def LeadsCommand (text : Text) : Prop := (leadingDatabaseCommand? text).isSome = true

instance (text : Text) : Decidable (LeadsCommand text) :=
  inferInstanceAs (Decidable ((leadingDatabaseCommand? text).isSome = true))

/-! ## Commands and words -/

/-- Whether words begin with a command that names the database to be changed. -/
def commandWords : List Text → Bool
  | [] => false
  | first :: rest =>
    match keyword? "USE" first with
    | some behind => endsWord behind
    | none =>
      anyKeyword? ["DROP", "CREATE"] first == some [] &&
        rest.head?.any fun second => (wholeKeyword? "DATABASE" second).isSome

/-- The first two words tell. -/
theorem commandWords_take (all : List Text) : commandWords (all.take 2) = commandWords all := by
  match all with
  | [] => rfl
  | [_] => rfl
  | _ :: _ :: _ => rfl

theorem commandWords_append {all : List Text} (h : commandWords all = true) (more : List Text) :
    commandWords (all ++ more) = true := by
  match all with
  | [] => cases h
  | [first] =>
    simp only [commandWords, List.head?_nil, Option.any_none, Bool.and_false] at h
    rw [List.singleton_append, commandWords]
    split at h
    · exact h
    · cases h
  | _ :: _ :: _ => exact h

section

variable {keyword : Text}
  (hkeyword : ∀ letter ∈ keyword, isBlank letter = false ∧ isBlank letter.toLower = false)

include hkeyword

/-- A keyword without blanks is found in the first word, or not at all. -/
theorem keyword?_word_append {rest : Text} (hrest : ∀ c ∈ rest.head?, isBlank c = true)
    (word : Text) : keyword? keyword (word ++ rest) = (keyword? keyword word).map (· ++ rest) := by
  refine keyword?_append (fun letter hletter c hc => ?_) word
  obtain ⟨hblank, hlower⟩ := hkeyword letter hletter
  exact spells_eq_false_of_isBlank hblank hlower (hrest c hc)

/-- A whole keyword behind any blanks is found in the first word. -/
theorem isSome_wholeKeyword?_trimLeft (hne : keyword ≠ []) (text : Text) :
    (wholeKeyword? keyword (trimLeft text)).isSome
      = (words text).head?.any fun word => (wholeKeyword? keyword word).isSome := by
  rcases exists_word_append text with ⟨htrim, hwords⟩ | ⟨word, rest, htrim, -, hrest, hwords⟩
  · obtain ⟨letter, keyword, rfl⟩ := List.exists_cons_of_ne_nil hne
    rw [htrim, hwords]
    rfl
  · have hends (text : Text) : endsWord (text ++ rest) = endsWord text :=
      endsWord_append (fun c hc => isWordCharacter_of_isBlank (hrest c hc)) text
    rw [htrim, hwords, wholeKeyword?, keyword?_word_append hkeyword hrest]
    simp only [List.head?_cons, Option.any_some, wholeKeyword?, Option.isSome_filter]
    cases keyword? keyword word with
    | none => rfl
    | some behind => exact hends behind

end

/-- Whether a text begins with a command is told from its words. -/
theorem leadsCommand_iff (text : Text) :
    LeadsCommand text ↔ commandWords (words text) = true := by
  rcases exists_word_append text with ⟨htrim, hwords⟩ | ⟨word, rest, htrim, hword, hrest, hwords⟩
  · rw [LeadsCommand, leadingDatabaseCommand?, htrim, hwords]
    decide
  · have hends (text : Text) : endsWord (text ++ rest) = endsWord text :=
      endsWord_append (fun c hc => isWordCharacter_of_isBlank (hrest c hc)) text
    have hany : anyKeyword? ["DROP", "CREATE"] (word ++ rest)
        = (anyKeyword? ["DROP", "CREATE"] word).map (· ++ rest) := by
      simp only [anyKeyword?, List.findSome?_cons, List.findSome?_nil]
      rw [keyword?_word_append (by decide) hrest, keyword?_word_append (by decide) hrest]
      cases keyword? "DROP" word <;> cases keyword? "CREATE" word <;> rfl
    rw [LeadsCommand, leadingDatabaseCommand?, htrim, hwords, Option.isSome_map, databaseCommand?,
      keyword?_word_append (by decide) hrest, hany, commandWords]
    rw [Option.isSome_filter]
    cases keyword? "USE" word with
    | some behind => exact Bool.eq_iff_iff.mp (hends behind)
    | none =>
        cases hverb : anyKeyword? ["DROP", "CREATE"] word with
        | none => rfl
        | some behind =>
            cases behind with
            | nil =>
                cases rest with
                | nil => rfl
                | cons c rest =>
                    have hc := hrest c rfl
                    rw [words_cons_of_blank hc,
                      ← isSome_wholeKeyword?_trimLeft (by decide) (by decide)]
                    simp [afterKeyword?, blanks?, hc, wholeKeyword?]
            | cons c behind =>
                -- the word goes on behind the verb
                obtain ⟨keyword, -, hread⟩ := List.exists_of_findSome?_eq_some hverb
                obtain ⟨front, rfl, -⟩ := exists_of_keyword? hread
                have hc : isBlank c = false := hword c (by simp)
                simp [afterKeyword?, blanks?, hc]

/-! ## The parts of a script -/

/-- The parts of a script between its semicolons. -/
def parts (script : Text) : List Text := splitWhere (· == ';') script

/-- What stands behind a semicolon does not matter for the command in front of it. -/
theorem leadsCommand_append (text rest : Text) :
    LeadsCommand (text ++ ';' :: rest) ↔ LeadsCommand text := by
  have hstop : StopsAt ';' fun text => (keyword? "USE" text).orElse fun _ =>
      (anyKeyword? ["DROP", "CREATE"] text).bind (afterKeyword? "DATABASE") :=
    (stopsAt_keyword? (by decide)).orElse ((stopsAt_anyKeyword? (by decide)).bind
      (stopsAt_afterKeyword? (by decide) (by decide)))
  have htrim : trimLeft (text ++ ';' :: rest) = trimLeft text ++ ';' :: rest :=
    dropWhile_append_stop (by decide) text rest
  have hends (text : Text) : endsWord (text ++ ';' :: rest) = endsWord text :=
    endsWord_append (by simp; decide) text
  have happend := hstop.append (trimLeft text) rest
  rw [LeadsCommand, LeadsCommand, leadingDatabaseCommand?, leadingDatabaseCommand?,
    Option.isSome_map, Option.isSome_map, htrim, databaseCommand?, databaseCommand?, happend,
    Option.isSome_filter, Option.isSome_filter]
  cases (keyword? "USE" (trimLeft text)).orElse fun _ =>
      (anyKeyword? ["DROP", "CREATE"] (trimLeft text)).bind (afterKeyword? "DATABASE") with
  | none => exact Iff.rfl
  | some behind => exact Bool.eq_iff_iff.mp (hends behind)

/-- Whether a text begins with a command is told from its first part. -/
theorem leadsCommand_iff_of_parts {text first : Text} {more : List Text}
    (h : parts text = first :: more) : LeadsCommand text ↔ LeadsCommand first := by
  obtain ⟨piece, pieces, hpieces, htext⟩ := exists_piece_append (· == ';') text
  rw [parts, hpieces] at h
  obtain ⟨rfl, -⟩ := List.cons.inj h
  rcases htext with rfl | ⟨c, rest, hc, rfl⟩
  · exact Iff.rfl
  · rw [beq_iff_eq.mp hc, leadsCommand_append]

theorem exists_mem_parts_of_leadsCommand {text : Text} (h : LeadsCommand text) :
    ∃ part ∈ parts text, LeadsCommand part := by
  obtain ⟨first, more, hparts⟩ := List.exists_cons_of_ne_nil (splitWhere_ne_nil (· == ';') text)
  rw [← parts] at hparts
  exact ⟨first, by simp [hparts], (leadsCommand_iff_of_parts hparts).mp h⟩

theorem isSome_laterDatabaseCommand?_iff (text : Text) :
    (laterDatabaseCommand? text).isSome = true ↔ ∃ part ∈ (parts text).tail, LeadsCommand part := by
  induction text with
  | nil => decide
  | cons c text ih =>
      obtain ⟨first, more, hparts⟩ :=
        List.exists_cons_of_ne_nil (splitWhere_ne_nil (· == ';') text)
      rw [← parts] at hparts
      rw [laterDatabaseCommand?]
      by_cases hc : c = ';'
      · have hfirst : (leadingDatabaseCommand? text).isSome = true ↔ LeadsCommand first :=
          leadsCommand_iff_of_parts hparts
        have hcons : parts (c :: text) = [] :: parts text :=
          splitWhere_cons_of_pos (by simp [hc]) text
        rw [if_pos hc, Option.isSome_or, Bool.or_eq_true, hfirst, ih, hcons, List.tail_cons, hparts]
        simp
      · have hcons : parts (c :: text) = (parts text).modifyHead (c :: ·) :=
          splitWhere_cons_of_neg (by simpa using hc) text
        rw [if_neg hc, ih, hcons, hparts]
        rfl

/-- A script has a command that is found just if one of its parts begins with one. -/
theorem isSome_dangerousCommand?_iff (script : Text) :
    (dangerousCommand? script).isSome = true ↔ ∃ part ∈ parts script, LeadsCommand part := by
  obtain ⟨first, more, hparts⟩ :=
    List.exists_cons_of_ne_nil (splitWhere_ne_nil (· == ';') script)
  rw [← parts] at hparts
  have hfirst : (leadingDatabaseCommand? script).isSome = true ↔ LeadsCommand first :=
    leadsCommand_iff_of_parts hparts
  rw [dangerousCommand?, Option.isSome_or, Bool.or_eq_true, hfirst,
    isSome_laterDatabaseCommand?_iff, hparts]
  simp

/-! ## The statements of a script -/

namespace Dump

/-- A delimiter that consists of semicolons. -/
def IsSemicolons (delimiter : Text) : Prop := delimiter ≠ [] ∧ ∀ c ∈ delimiter, c = ';'

/-- No directive among the lines sets another delimiter than semicolons. -/
def KeepsSemicolons (lines : List Text) : Prop :=
  ∀ line ∈ lines, ∀ delimiter ∈ delimiterDirective? (trim line), ∀ c ∈ delimiter, c = ';'

instance (lines : List Text) : Decidable (KeepsSemicolons lines) :=
  inferInstanceAs (Decidable
    (∀ line ∈ lines, ∀ delimiter ∈ delimiterDirective? (trim line), ∀ c ∈ delimiter, c = ';'))

/-- A line that sets a delimiter ends in it: nothing stands behind it, since the line is trimmed. -/
theorem of_delimiterDirective? {line delimiter : Text}
    (h : delimiterDirective? (trim line) = some delimiter) :
    delimiter ≠ [] ∧ delimiter <:+ trim line := by
  obtain ⟨keyword, gap, pad, -, -, hword, hpad, hline⟩ := delimiterDirective?_eq_some.mp h
  have hsplit : trim line = keyword ++ gap ++ delimiter ++ pad := by simp [hline]
  have hnil : pad = [] := by
    by_contra hne
    have hlast : (trim line).getLast? = some (pad.getLast hne) := by
      rw [hsplit, List.getLast?_append_of_ne_nil _ hne, List.getLast?_eq_some_getLast hne]
    have hbare : isBlank (pad.getLast hne) = false := getLast?_trimRight _ hlast
    rw [hpad _ (List.getLast_mem hne)] at hbare
    cases hbare
  rw [hnil, List.append_nil] at hsplit
  exact ⟨hword.ne_nil, keyword ++ gap, hsplit.symm⟩

theorem IsSemicolons.suffix {delimiter : Text} (h : IsSemicolons delimiter) :
    semicolon <:+ delimiter := by
  obtain ⟨front, c, rfl⟩ := List.eq_nil_or_concat delimiter |>.resolve_left h.1
  obtain rfl : c = ';' := h.2 c (by simp)
  exact ⟨front, by simp [semicolon]⟩

variable {delimiter statement : Text} {held lines : List Text}

theorem commandWords_of_mem_flushStatement (hstatement : statement ∈ flushStatement held)
    (hleads : LeadsCommand statement) : commandWords (held.flatMap words) = true := by
  rw [flushStatement] at hstatement
  split at hstatement
  · cases hstatement
  · rw [List.mem_singleton.mp hstatement, leadsCommand_iff, words_unlines] at hleads
    exact hleads

/-- A delimiter of semicolons that is taken off a statement does not matter for the command in
front of it. -/
theorem commandWords_of_closeStatement {line : Text} (hdelimiter : IsSemicolons delimiter)
    (hends : delimiter <:+ trim line)
    (hleads : LeadsCommand (closeStatement delimiter (held ++ [trimRight line]))) :
    commandWords ((held ++ [line]).flatMap words) = true := by
  have hwords : (held ++ [line]).flatMap words = words (unlines (held ++ [trimRight line])) := by
    simp [words_unlines]
  rw [hwords, ← leadsCommand_iff]
  rw [closeStatement] at hleads
  split at hleads
  · exact hleads
  · rw [leadsCommand_iff, words_trimRight, ← leadsCommand_iff] at hleads
    rw [leadsCommand_iff, ← words_trimRight, ← leadsCommand_iff]
    generalize hended : trimRight (unlines (held ++ [trimRight line])) = ended at hleads ⊢
    have hline : delimiter <:+ trimRight line := hends.trans (trim_suffix line)
    have hsuffix : delimiter <:+ ended := by
      have hne : trimRight (trimRight line) ≠ [] := by
        rw [trimRight_trimRight]
        exact hline.ne_nil hdelimiter.1
      obtain ⟨front, hfront⟩ := suffix_unlines_concat held (trimRight line)
      rw [← hended, ← hfront, trimRight_append hne, trimRight_trimRight]
      exact hline.trans (List.suffix_append _ _)
    obtain ⟨front, rfl⟩ := hsuffix
    obtain ⟨c, more, rfl⟩ := List.exists_cons_of_ne_nil hdelimiter.1
    obtain rfl : c = ';' := hdelimiter.2 c (by simp)
    rw [leadsCommand_append]
    simpa using hleads

/-- A command begins behind a line that ends in a semicolon. -/
def LeadsLater (lines : List Text) : Prop :=
  ∃ front line rest, lines = front ++ line :: rest ∧ semicolon <:+ trim line ∧
    commandWords (rest.flatMap words) = true

theorem LeadsLater.cons (h : LeadsLater lines) (line : Text) : LeadsLater (line :: lines) := by
  obtain ⟨front, last, rest, rfl, hlast, hcommand⟩ := h
  exact ⟨line :: front, last, rest, rfl, hlast, hcommand⟩

/-- A statement that begins with a command does so at the first line, or behind a line that ends
in a semicolon. The induction is on the lines; those of an open statement stand in front. -/
theorem leads_of_mem_statementsFrom (hdelimiter : IsSemicolons delimiter)
    (hlines : KeepsSemicolons lines) (hstatement : statement ∈ statementsFrom delimiter held lines)
    (hleads : LeadsCommand statement) :
    commandWords ((held ++ lines).flatMap words) = true ∨ LeadsLater lines := by
  induction lines generalizing delimiter held with
  | nil =>
      rw [List.append_nil]
      exact .inl (commandWords_of_mem_flushStatement hstatement hleads)
  | cons line lines ih =>
      have hrest : KeepsSemicolons lines := fun other hother => hlines other (by simp [hother])
      have hbehind {next : Text} (hnext : IsSemicolons next) (hends : semicolon <:+ trim line)
          (hmem : statement ∈ statementsFrom next [] lines) : LeadsLater (line :: lines) := by
        rcases ih hnext hrest hmem with hfirst | hlater
        · exact ⟨[], line, lines, rfl, hends, hfirst⟩
        · exact hlater.cons line
      rw [statementsFrom] at hstatement
      simp only at hstatement
      cases hdirective : delimiterDirective? (trim line) with
      | some next =>
          simp only [hdirective, List.mem_append] at hstatement
          obtain ⟨hne, hsuffix⟩ := of_delimiterDirective? hdirective
          have hnext : IsSemicolons next := ⟨hne, hlines line (by simp) next hdirective⟩
          -- the directive ends the open statement, and its line in the new delimiter
          rcases hstatement with hflush | hmem
          · refine .inl ?_
            rw [List.flatMap_append]
            exact commandWords_append (commandWords_of_mem_flushStatement hflush hleads) _
          · exact .inr (hbehind hnext (hnext.suffix.trans hsuffix) hmem)
      | none =>
          simp only [hdirective] at hstatement
          split at hstatement
          · rename_i hseparator
            obtain ⟨hheld, hseparator⟩ := Bool.and_eq_true_iff.mp hseparator
            obtain rfl := List.isEmpty_iff.mp hheld
            -- a line between statements is blank or a delimiter
            by_cases hblank : trim line = []
            · have hnone : words line = [] := by rw [← words_trim, hblank, words_nil]
              refine (ih hdelimiter hrest hstatement).imp (fun hfirst => ?_) (·.cons line)
              rwa [List.nil_append, List.flatMap_cons, hnone, List.nil_append]
            · have hline : IsSemicolons (trim line) := by
                refine ⟨hblank, ?_⟩
                rcases Bool.or_eq_true_iff.mp hseparator with heq | hall
                · rw [beq_iff_eq.mp heq]
                  exact hdelimiter.2
                · simpa using hall
              exact .inr (hbehind hdelimiter hline.suffix hstatement)
          · split at hstatement
            · rename_i hends
              have hsuffix : delimiter <:+ trim line := List.isSuffixOf_iff_suffix.mp hends
              rcases List.mem_cons.mp hstatement with rfl | hmem
              · refine .inl ?_
                rw [List.append_cons, List.flatMap_append]
                exact commandWords_append
                  (commandWords_of_closeStatement hdelimiter hsuffix hleads) _
              · exact .inr (hbehind hdelimiter (hdelimiter.suffix.trans hsuffix) hmem)
            · refine (ih hdelimiter hrest hstatement).imp (fun hfirst => ?_) (·.cons line)
              simpa using hfirst

/-- A statement that begins with a command stands behind a semicolon or at the beginning, as long
as the semicolon is the delimiter. -/
theorem exists_part_of_mem_statements {text : Text} (htext : KeepsSemicolons (Text.lines text))
    (hstatement : statement ∈ statements text) (hleads : LeadsCommand statement) :
    ∃ part ∈ parts text, LeadsCommand part := by
  have hsemicolon : IsSemicolons semicolon := ⟨by decide, by decide⟩
  rcases leads_of_mem_statementsFrom hsemicolon htext hstatement hleads with
    hfirst | ⟨front, line, rest, hlines, hends, hcommand⟩
  · rw [List.nil_append, ← words_unlines, unlines_lines, ← leadsCommand_iff] at hfirst
    exact exists_mem_parts_of_leadsCommand hfirst
  · have hrest : rest ≠ [] := by
      rintro rfl
      cases hcommand
    obtain ⟨before, back, hline, -, hback⟩ := exists_trim line
    obtain ⟨inside, hinside⟩ := hends
    obtain ⟨above, habove⟩ := suffix_unlines_concat front line
    -- the text with the semicolon that ends the line
    have hsplit : text = (above ++ before ++ inside) ++ ';' :: (back ++ '\n' :: unlines rest) := by
      rw [← unlines_lines text, hlines, List.append_cons, unlines_append (by simp) hrest, ← habove]
      conv_lhs => rw [hline, ← hinside]
      simp [semicolon]
    have hbehind : LeadsCommand (back ++ '\n' :: unlines rest) := by
      rw [leadsCommand_iff, words_blank_append hback, words_cons_of_blank (by decide),
        words_unlines]
      exact hcommand
    obtain ⟨part, hpart, hleadsPart⟩ := exists_mem_parts_of_leadsCommand hbehind
    refine ⟨part, ?_, hleadsPart⟩
    rw [hsplit, parts, splitWhere_append_cons (by decide)]
    exact List.mem_append_right _ hpart

end Dump

end SchemaMigration
