import SchemaMigration.Dump.Statement
import SchemaMigration.Proofs.Text.LineEnd

/-!
# Statements between delimiter directives

A text between a directive that sets a delimiter and one that sets the semicolon again is one
statement, semicolons and all, if none of its lines ends with the delimiter or is a directive.

## Main Definitions

* `delimiterDirective?_eq_some` - the lines that set a delimiter
* `statementsFrom_until` - the lines of a statement, up to the one that its delimiter ends
* `statements_delimited` - the statement between two directives
-/

namespace SchemaMigration.Dump

open Text

/-! ## Directives -/

/-- A line sets a delimiter just if it is the keyword, a word and blanks. -/
theorem delimiterDirective?_eq_some {line delimiter : Text} :
    delimiterDirective? line = some delimiter ↔ ∃ keyword gap pad, IsSpelling "DELIMITER" keyword ∧
      IsGap gap ∧ IsWord delimiter ∧ (∀ c ∈ pad, isBlank c = true) ∧
        line = keyword ++ (gap ++ (delimiter ++ pad)) := by
  have hread : delimiterDirective? line =
      (((keyword? "DELIMITER" line).bind blanks?).bind word?).bind
        fun found => if isBlankText found.2 then some found.1 else none := by
    simp only [delimiterDirective?, Option.bind_eq_bind, Option.bind_assoc]
  rw [hread]
  constructor
  · intro h
    obtain ⟨⟨found, pad⟩, hfound, hrest⟩ := Option.bind_eq_some_iff.mp h
    obtain ⟨behind, hbehind, hword⟩ := Option.bind_eq_some_iff.mp hfound
    obtain ⟨start, hstart, hblanks⟩ := Option.bind_eq_some_iff.mp hbehind
    obtain ⟨keyword, hkeyword, rfl⟩ := keyword?_eq_some.mp hstart
    obtain ⟨gap, hgap, rfl, -⟩ := blanks?_eq_some.mp hblanks
    obtain ⟨hdelimiter, rfl, -⟩ := word?_eq_some.mp hword
    obtain ⟨hpad, heq⟩ := Option.ite_none_right_eq_some.mp hrest
    obtain rfl : found = delimiter := Option.some.inj heq
    exact ⟨keyword, gap, pad, hkeyword, hgap, hdelimiter, List.all_eq_true.mp hpad, rfl⟩
  · rintro ⟨keyword, gap, pad, hkeyword, hgap, hdelimiter, hpad, rfl⟩
    have hblanks : blanks? (gap ++ (delimiter ++ pad)) = some (delimiter ++ pad) :=
      blanks?_eq_some.mpr ⟨gap, hgap, rfl, hdelimiter.head? pad⟩
    have hword : word? (delimiter ++ pad) = some (delimiter, pad) :=
      word?_eq_some.mpr ⟨hdelimiter, rfl, fun c hc => hpad c (List.mem_of_mem_head? hc)⟩
    rw [keyword?_eq_some.mpr ⟨keyword, hkeyword, rfl⟩, Option.bind_some, hblanks, Option.bind_some,
      hword, Option.bind_some]
    exact if_pos (List.all_eq_true.mpr hpad)

/-- A word at the end of a line makes no directive of it. -/
theorem delimiterDirective?_append {line word : Text} (hword : IsWord word)
    (hlast : ∀ c ∈ line.getLast?, isBlank c = false) (h : delimiterDirective? line = none) :
    delimiterDirective? (line ++ word) = none := by
  rw [Option.eq_none_iff_forall_ne_some] at h ⊢
  intro delimiter hfound
  obtain ⟨keyword, gap, pad, hkeyword, hgap, hdelimiter, hpad, hline⟩ :=
    delimiterDirective?_eq_some.mp hfound
  -- neither the line nor the word ends with a blank, as the gap and the rest of a directive do
  have hclash {text front gap : Text} (hgap : IsGap gap) (htext : text = front ++ gap)
      (hend : ∀ c ∈ text.getLast?, isBlank c = false) : False := by
    obtain ⟨c, hc, hblank⟩ := hgap.getLast? front
    rw [hend c (htext ▸ hc)] at hblank
    cases hblank
  have hparts : keyword ++ (gap ++ (delimiter ++ pad)) = keyword ++ gap ++ delimiter ++ pad := by
    simp
  obtain rfl : pad = [] := by
    by_contra hpadNe
    exact hclash ⟨hpadNe, hpad⟩ (hline.trans hparts) (hword.getLast? line)
  rw [hparts, List.append_nil] at hline
  rcases List.append_eq_append_iff.mp hline with ⟨behind, hfront, hsplit⟩ | ⟨behind, hfront, hsplit⟩
  · -- the gap ends inside the word
    refine hclash hgap hfront.symm ?_
    by_cases hbehind : behind = []
    · rwa [hbehind, List.append_nil]
    · have hinside : IsWord behind :=
        ⟨hbehind, fun c hc => hword.isBlank c (hsplit ▸ List.mem_append_left _ hc)⟩
      exact hinside.getLast? line
  · -- the gap ends inside the line
    by_cases hbehind : behind = []
    · exact hclash hgap (by rw [hfront, hbehind, List.append_nil]) hlast
    · have hinside : IsWord behind :=
        ⟨hbehind, fun c hc => hdelimiter.isBlank c (hsplit ▸ List.mem_append_left _ hc)⟩
      exact h behind (delimiterDirective?_eq_some.mpr
        ⟨keyword, gap, [], hkeyword, hgap, hinside, by simp, by simp [hfront]⟩)

theorem delimiterDirective?_keyword {delimiter : Text} (hword : IsWord delimiter) :
    delimiterDirective? (trim ("DELIMITER ".toList ++ delimiter)) = some delimiter := by
  have hkeyword : "DELIMITER ".toList = "DELIMITER".toList ++ [' '] := by decide
  have htrim : trim ("DELIMITER ".toList ++ delimiter) = "DELIMITER ".toList ++ delimiter :=
    trim_eq_self (fun c hc => by cases hc; rfl) (hword.getLast? _)
  rw [htrim]
  exact delimiterDirective?_eq_some.mpr ⟨"DELIMITER".toList, [' '], [], isSpelling_self _,
    isGap_space, hword, by simp, by simp [hkeyword]⟩

/-! ## Lines of one statement -/

/-- Lines up to the first one that ends with the delimiter are a statement. -/
theorem statementsFrom_until {delimiter last : Text} {held inner : List Text}
    (hopen : held ≠ [] ∨
      ∀ line ∈ (inner ++ [last]).head?, isSeparator delimiter (trim line) = false)
    (hinner : ∀ line ∈ inner, delimiterDirective? (trim line) = none ∧
      endsWith delimiter (trim line) = false)
    (hlast : delimiterDirective? (trim last) = none ∧ endsWith delimiter (trim last) = true)
    (rest : List Text) : statementsFrom delimiter held (inner ++ last :: rest) =
      closeStatement delimiter (held ++ (inner ++ [last]).map trimRight) ::
        statementsFrom delimiter [] rest := by
  have hstands {line : Text} (h : held ≠ [] ∨ isSeparator delimiter (trim line) = false) :
      ¬ (held.isEmpty && isSeparator delimiter (trim line)) = true := by
    rcases h with h | h
    · simp [h]
    · simp [h]
  induction inner generalizing held with
  | nil =>
      have hline := hstands (hopen.imp_right fun h => h last rfl)
      simp only [List.nil_append, statementsFrom, hlast.1, if_neg hline, hlast.2, if_true]
      rfl
  | cons line inner ih =>
      obtain ⟨hfirst, hmore⟩ := List.forall_mem_cons.mp hinner
      have hline := hstands (hopen.imp_right fun h => h line rfl)
      have hnext := @ih (held ++ [trimRight line]) (.inl (by simp)) hmore (fun _ => by simp)
      simp only [List.cons_append, statementsFrom, hfirst.1, if_neg hline, hfirst.2,
        Bool.false_eq_true, if_false, hnext]
      simp

/-- The delimiter at the end of a statement goes, unless it is the semicolon. -/
theorem closeStatement_append {delimiter : Text} (hword : IsWord delimiter)
    (hne : delimiter ≠ semicolon) (init : List Text) (last : Text) :
    closeStatement delimiter (init ++ [last ++ delimiter]) =
      trimRight (unlines (init ++ [last])) := by
  have hdelimiter : trimRight delimiter = delimiter :=
    trimRight_eq_self fun c hc => hword.isBlank c (List.mem_of_getLast? hc)
  have hended : trimRight (unlines (init ++ [last]) ++ delimiter) =
      unlines (init ++ [last]) ++ delimiter := by
    rw [trimRight_append (by rw [hdelimiter]; exact hword.ne_nil), hdelimiter]
  rw [closeStatement, if_neg hne, unlines_append_last]
  simp [hended]

/-- A line that begins with none of the characters of a delimiter separates no statements. -/
theorem isSeparator_eq_false {delimiter line : Text} {c : Char} (hsemicolon : c ≠ ';')
    (hdelimiter : c ∉ delimiter) : isSeparator delimiter (c :: line) = false := by
  rw [isSeparator, Bool.or_eq_false_iff]
  refine ⟨beq_eq_false_iff_ne.mpr ?_, by simp [hsemicolon]⟩
  rintro rfl
  exact hdelimiter (by simp)

/-- A text between two directives is one statement, without the blanks at the ends of its lines. -/
theorem statements_delimited {delimiter text : Text} (hword : IsWord delimiter)
    (hne : delimiter ≠ semicolon) (htext : text ≠ [])
    (hhead : ∀ c ∈ text.head?, isBlank c = false ∧ c ≠ ';' ∧ c ∉ delimiter)
    (hlast : ∀ c ∈ text.getLast?, isBlank c = false)
    (hlines : ∀ line ∈ lines text, delimiterDirective? (trim line) = none ∧
      endsWith delimiter (trim line) = false) :
    statements ("DELIMITER ".toList ++ delimiter ++ '\n' ::
      (text ++ delimiter ++ '\n' :: "DELIMITER ;".toList)) = [trimLines text] := by
  have hnewline : '\n' ∉ delimiter := fun hmem => absurd (hword.isBlank _ hmem) (by decide)
  have hset : lines ("DELIMITER ".toList ++ delimiter) = ["DELIMITER ".toList ++ delimiter] :=
    lines_append_last hnewline
      (show lines "DELIMITER ".toList = [] ++ ["DELIMITER ".toList] by decide)
  have hreset : statementsFrom delimiter [] (lines "DELIMITER ;".toList) = [] := rfl
  -- the last line ends as the text does
  obtain ⟨front, c, rfl⟩ := (List.eq_nil_or_concat' text).resolve_left htext
  have hc : isBlank c = false := hlast c (by simp)
  have hcNewline : c ≠ '\n' := by
    rintro rfl
    cases hc
  obtain ⟨init, last, hsplit⟩ := lines_concat hcNewline front
  have hbehind := lines_append_last hnewline hsplit
  rw [hsplit] at hlines
  obtain ⟨hinit, hend⟩ := List.forall_mem_append.mp hlines
  have htrim : trim (last ++ [c] ++ delimiter) = trim (last ++ [c]) ++ delimiter :=
    hword.trim_append (by simp) (by simpa using hc)
  have hclose : delimiterDirective? (trim (last ++ [c] ++ delimiter)) = none ∧
      endsWith delimiter (trim (last ++ [c] ++ delimiter)) = true := by
    rw [htrim]
    refine ⟨delimiterDirective?_append hword getLast?_trim (hend _ (by simp)).1, ?_⟩
    exact List.isSuffixOf_iff_suffix.mpr (List.suffix_append _ _)
  have hopen : ∀ line ∈ (init ++ [last ++ [c] ++ delimiter]).head?,
      isSeparator delimiter (trim line) = false := by
    obtain ⟨d, rest, hrest⟩ := List.exists_cons_of_ne_nil htext
    obtain ⟨hd, hsemicolon, hdelimiter⟩ := hhead d (by rw [hrest]; rfl)
    obtain ⟨first, more, hlines⟩ := exists_lines_cons hd (rest ++ delimiter)
    rw [← List.cons_append, ← hrest, hbehind] at hlines
    rw [hlines]
    rintro line ⟨⟩
    rw [trim_cons hd]
    exact isSeparator_eq_false hsemicolon hdelimiter
  rw [statements, lines_append_cons, hset, lines_append_cons, hbehind, List.singleton_append,
    statementsFrom, delimiterDirective?_keyword hword]
  simp only
  rw [List.append_assoc, List.singleton_append, statementsFrom_until (.inr hopen) hinit hclose,
    hreset]
  -- neither the delimiter nor the text has blanks at its end
  have hended : trimRight (last ++ [c] ++ delimiter) = last ++ [c] ++ delimiter :=
    trimRight_eq_self (hword.getLast? _)
  have hself : trimRight (last ++ [c]) = last ++ [c] := trimRight_eq_self (by simpa using hc)
  have hlines : trimLines (front ++ [c]) = unlines (init.map trimRight ++ [last ++ [c]]) := by
    rw [trimLines, hsplit, List.map_append, List.map_singleton, hself]
  rw [List.map_append, List.map_singleton, hended, List.nil_append, closeStatement_append hword hne,
    ← hlines, trimRight_eq_self (getLast?_trimLines hlast ▸ hlast)]
  rfl

end SchemaMigration.Dump
