import SchemaMigration.Proofs.Dump.Delimiter
import SchemaMigration.Proofs.Dump.Statement

/-!
# What becomes of the lines of a dump

Each line of a text is a directive, a separator or a line of one statement, and it is told by the
lines in front of it which. So nothing of a text is lost but blanks at the ends of lines and the
delimiters that end its statements, and nothing is put in.

## Main Definitions

* `Segment` - a directive, a separator, or the lines of a statement with its text
* `IsCut` - segments as they may follow one another
* `IsCut.statementsFrom_eq` - the statements of some lines are those of their segments
* `exists_isCut`, `IsCut.unique` - lines have segments, and only one way to have them
* `statements_segmented` - all of that for a text, which is cut the same way again

## Design Notes

The delimiter in force is not part of a segment: it stands in front of them, and a directive sets it
for those that follow. A statement that its delimiter does not end is one in front of a directive or
the last one.
-/

namespace SchemaMigration.Dump

open Text

/-! ## Segments -/

/-- Lines of a text, by what they are for its statements. -/
inductive Segment
  /-- A line that sets the delimiter. -/
  | directive (line next : Text)
  /-- A line between statements. -/
  | separator (line : Text)
  /-- The lines of a statement, and what the statement is. -/
  | statement (lines : List Text) (text : Text)

namespace Segment

/-- The lines of a segment. -/
def lines : Segment → List Text
  | directive line _ => [line]
  | separator line => [line]
  | statement lines _ => lines

/-- The statement that a segment is. -/
def statement? : Segment → Option Text
  | directive _ _ => none
  | separator _ => none
  | statement _ text => some text

/-- A segment that is a directive. -/
def IsDirective (segment : Segment) : Prop := ∃ line next, segment = directive line next

end Segment

/-- A line that separates statements where none is open: it is blank, has only semicolons, or is the
delimiter. -/
def Separates (delimiter line : Text) : Prop :=
  isBlankText line = true ∨ (∀ c ∈ trim line, c = ';') ∨ trim line = delimiter

instance (delimiter line : Text) : Decidable (Separates delimiter line) :=
  inferInstanceAs (Decidable (_ ∨ _))

/-- A line that ends with the delimiter. -/
def IsEnd (delimiter line : Text) : Prop := endsWith delimiter (trim line) = true

instance (delimiter line : Text) : Decidable (IsEnd delimiter line) :=
  inferInstanceAs (Decidable (_ = true))

/-- The lines of a statement: the first one is no separator, none is a directive, and none but the
last one ends with the delimiter. -/
structure IsStatement (delimiter : Text) (lines : List Text) : Prop where
  ne_nil : lines ≠ []
  first : ∀ line ∈ lines.head?, ¬ Separates delimiter line
  plain : ∀ line ∈ lines, delimiterDirective? (trim line) = none
  inner : ∀ line ∈ lines.dropLast, ¬ IsEnd delimiter line

/-- Lines of which the last one ends with the delimiter. -/
def IsEnded (delimiter : Text) (lines : List Text) : Prop :=
  ∃ line ∈ lines.getLast?, IsEnd delimiter line

instance (delimiter : Text) (lines : List Text) : Decidable (IsEnded delimiter lines) :=
  inferInstanceAs (Decidable (∃ line ∈ lines.getLast?, IsEnd delimiter line))

/-- What lines leave for their statement. All that goes are the blanks at the ends of lines and, if
it is not the semicolon, the delimiter that ends them, with the blanks in front of it. -/
structure Leaves (delimiter : Text) (lines : List Text) (text : Text) : Prop where
  whole : ¬ IsEnded delimiter lines ∨ delimiter = semicolon → text = unlines (lines.map trimRight)
  ended : IsEnded delimiter lines → delimiter ≠ semicolon →
    (∀ c ∈ text.getLast?, isBlank c = false) ∧ ∃ pad, (∀ c ∈ pad, isBlank c = true) ∧
      unlines (lines.map trimRight) = text ++ pad ++ delimiter
  inner : ∀ line ∈ (Text.lines text).dropLast, endsWith delimiter line = false

/-- Segments as they may follow one another under a delimiter. -/
inductive IsCut : (delimiter : Text) → (segments : List Segment) → Prop
  | nil {delimiter : Text} : IsCut delimiter []
  | directive {delimiter line next : Text} {segments : List Segment}
      (hline : delimiterDirective? (trim line) = some next) (hmore : IsCut next segments) :
      IsCut delimiter (.directive line next :: segments)
  | separator {delimiter line : Text} {segments : List Segment}
      (hplain : delimiterDirective? (trim line) = none) (hline : Separates delimiter line)
      (hmore : IsCut delimiter segments) : IsCut delimiter (.separator line :: segments)
  | statement {delimiter text : Text} {lines : List Text} {segments : List Segment}
      (hlines : IsStatement delimiter lines) (htext : Leaves delimiter lines text)
      (hends : IsEnded delimiter lines ∨ ∀ segment ∈ segments.head?, segment.IsDirective)
      (hmore : IsCut delimiter segments) : IsCut delimiter (.statement lines text :: segments)

theorem isSeparator_trim_iff {delimiter line : Text} :
    isSeparator delimiter (trim line) = true ↔ Separates delimiter line := by
  rw [isSeparator, Bool.or_eq_true, beq_iff_eq, List.all_eq_true, Separates]
  simp only [beq_iff_eq]
  constructor
  · rintro (hdelimiter | hsemicolons)
    · exact .inr (.inr hdelimiter)
    · exact .inr (.inl hsemicolons)
  · rintro (hblank | hsemicolons | hdelimiter)
    · rw [isBlankText_eq, List.isEmpty_iff] at hblank
      simp [hblank]
    · exact .inr hsemicolons
    · exact .inl hdelimiter

/-- A separator may be blank, so a line that is none has something else than blanks. -/
theorem isBlankText_trimRight_of_not_separates {delimiter line : Text}
    (h : ¬ Separates delimiter line) : isBlankText (trimRight line) = false := by
  rw [Bool.eq_false_iff]
  intro hblank
  rw [isBlankText_eq, trim_trimRight, ← isBlankText_eq] at hblank
  exact h (.inl hblank)

section

variable {delimiter : Text}

/-! ## Ends of statements -/

/-- The blanks in front of a line do not matter for the word that it ends with. -/
theorem isEnd_iff_suffix (hword : IsWord delimiter) {line : Text} :
    IsEnd delimiter line ↔ delimiter <:+ trimRight line := by
  rw [IsEnd, endsWith, List.isSuffixOf_iff_suffix]
  refine ⟨fun h => h.trans (trim_suffix line), fun h => ?_⟩
  by_cases hnil : trim line = []
  · -- a blank line has no end that is not blank
    have hblank : trimRight line = [] := by
      obtain ⟨front, back, hline, hfront, hback⟩ := exists_trim line
      rw [hnil, List.append_nil] at hline
      have hgone := trimRight_append_of_blank [] (List.forall_mem_append.mpr ⟨hfront, hback⟩)
      rwa [List.nil_append, ← hline] at hgone
    rw [hblank] at h
    exact absurd (List.suffix_nil.mp h) hword.ne_nil
  · obtain ⟨gap, back, -, hgap, hright⟩ := trimRight_eq_append_trim hnil
    rcases List.suffix_or_suffix_of_suffix h (trim_suffix line) with hsuffix | ⟨more, rfl⟩
    · exact hsuffix
    · -- what the delimiter has in front of the trimmed line would be blanks
      rw [hright] at h
      obtain ⟨front, hfront⟩ := h
      rw [← List.append_assoc] at hfront
      have hmore := List.append_cancel_right hfront
      obtain rfl : more = [] := by
        refine List.eq_nil_iff_forall_not_mem.mpr fun c hc => ?_
        have hblank := hgap c (hmore ▸ List.mem_append_right front hc)
        rw [hword.isBlank c (List.mem_append_left _ hc)] at hblank
        cases hblank
      exact List.suffix_rfl

theorem IsEnded.suffix (hword : IsWord delimiter) {lines : List Text}
    (h : IsEnded delimiter lines) : delimiter <:+ unlines (lines.map trimRight) := by
  obtain ⟨last, hlast, hend⟩ := h
  obtain ⟨front, rfl⟩ := List.getLast?_eq_some_iff.mp hlast
  rw [List.map_append, List.map_singleton]
  exact ((isEnd_iff_suffix hword).mp hend).trans (suffix_unlines_concat _ _)

/-- The lines of the beginning of a text are those of the text, but for the last one. -/
theorem dropLast_lines_isPrefix (front back : Text) :
    (lines front).dropLast <+: (lines (front ++ back)).dropLast := by
  obtain ⟨init, last, hlines⟩ := (List.eq_nil_or_concat' (lines front)).resolve_left
    (splitWhere_ne_nil _ front)
  rw [hlines, List.dropLast_concat]
  by_cases hinit : init = []
  · rw [hinit]
    exact List.nil_prefix
  · have hsplit : lines (front ++ back) = init ++ lines (last ++ back) := by
      have hnewline : ∀ line ∈ init, '\n' ∉ line := fun line hline =>
        newline_notMem_of_mem_lines (hlines ▸ List.mem_append_left _ hline)
      rw [← unlines_lines front, hlines, unlines_append hinit (by simp), List.append_assoc,
        List.cons_append, lines_append_cons, lines_unlines hinit hnewline]
      rfl
    have hne : lines (last ++ back) ≠ [] := splitWhere_ne_nil _ _
    rw [hsplit, List.dropLast_append_of_ne_nil hne]
    exact List.prefix_append _ _

/-- No line of what is left but the last one ends with the delimiter. -/
theorem IsStatement.inner_of_prefix (hword : IsWord delimiter) {lines : List Text} {text : Text}
    (h : IsStatement delimiter lines) (hnewline : ∀ line ∈ lines, '\n' ∉ line)
    (hbegins : text <+: unlines (lines.map trimRight)) :
    ∀ line ∈ (Text.lines text).dropLast, endsWith delimiter line = false := by
  obtain ⟨back, hback⟩ := hbegins
  have hlines : Text.lines (unlines (lines.map trimRight)) = lines.map trimRight := by
    refine lines_unlines (by simpa using h.ne_nil) fun line hline => ?_
    obtain ⟨raw, hraw, rfl⟩ := List.mem_map.mp hline
    exact fun hmem => hnewline raw hraw ((List.rdropWhile_prefix isBlank raw).subset hmem)
  intro line hline
  have hmem := (dropLast_lines_isPrefix text back).subset hline
  rw [hback, hlines, ← List.map_dropLast] at hmem
  obtain ⟨raw, hraw, rfl⟩ := List.mem_map.mp hmem
  rw [Bool.eq_false_iff, endsWith, ne_eq, List.isSuffixOf_iff_suffix, ← isEnd_iff_suffix hword]
  exact h.inner raw hraw

/-- Lines leave only one text. -/
theorem Leaves.unique {lines : List Text} {text other : Text} (h : Leaves delimiter lines text)
    (hother : Leaves delimiter lines other) : text = other := by
  by_cases hends : IsEnded delimiter lines ∧ delimiter ≠ semicolon
  · obtain ⟨hlast, pad, hpad, hwhole⟩ := h.ended hends.1 hends.2
    obtain ⟨hlastOther, padOther, hpadOther, hwholeOther⟩ := hother.ended hends.1 hends.2
    have hpadded : text ++ pad = other ++ padOther :=
      List.append_cancel_right (hwhole.symm.trans hwholeOther)
    have htrim := congrArg trimRight hpadded
    rwa [trimRight_append_of_blank _ hpad, trimRight_append_of_blank _ hpadOther,
      trimRight_eq_self hlast, trimRight_eq_self hlastOther] at htrim
  · rw [not_and_or, not_not] at hends
    rw [h.whole hends, hother.whole hends]

/-- What lines leave is what is made of them at their end. -/
theorem leaves_closeStatement (hword : IsWord delimiter) {lines : List Text}
    (h : IsStatement delimiter lines) (hends : IsEnded delimiter lines)
    (hnewline : ∀ line ∈ lines, '\n' ∉ line) :
    Leaves delimiter lines (closeStatement delimiter (lines.map trimRight)) := by
  by_cases hdelimiter : delimiter = semicolon
  · have hwhole : closeStatement delimiter (lines.map trimRight) = unlines (lines.map trimRight) :=
      if_pos hdelimiter
    rw [hwhole]
    exact ⟨fun _ => rfl, fun _ hne => absurd hdelimiter hne,
      h.inner_of_prefix hword hnewline List.prefix_rfl⟩
  · obtain ⟨front, hfront⟩ := hends.suffix hword
    obtain ⟨pad, hpad, hleft⟩ := exists_trimRight front
    have htrim : trimRight (front ++ delimiter) = front ++ delimiter :=
      trimRight_eq_self (hword.getLast? front)
    have hclose : closeStatement delimiter (lines.map trimRight) = trimRight front := by
      rw [closeStatement, if_neg hdelimiter, ← hfront]
      simp [htrim]
    rw [hclose]
    refine ⟨?_, fun _ _ => ⟨getLast?_trimRight, pad, hpad, ?_⟩, ?_⟩
    · rintro (hnot | hsame)
      · exact absurd hends hnot
      · exact absurd hsame hdelimiter
    · rw [← hleft, hfront]
    · refine h.inner_of_prefix hword hnewline ⟨pad ++ delimiter, ?_⟩
      rw [← List.append_assoc, ← hleft, hfront]

/-- Without their delimiter at the end lines are left as they are. -/
theorem leaves_unlines (hword : IsWord delimiter) {lines : List Text}
    (h : IsStatement delimiter lines) (hends : ¬ IsEnded delimiter lines)
    (hnewline : ∀ line ∈ lines, '\n' ∉ line) :
    Leaves delimiter lines (unlines (lines.map trimRight)) :=
  ⟨fun _ => rfl, fun hended => absurd hended hends,
    h.inner_of_prefix hword hnewline List.prefix_rfl⟩

/-! ## The statements of segments -/

/-- Lines of which none ends with the delimiter are held. -/
theorem statementsFrom_held {held inner : List Text}
    (hopen : held ≠ [] ∨ ∀ line ∈ inner.head?, ¬ Separates delimiter line)
    (hinner : ∀ line ∈ inner, delimiterDirective? (trim line) = none ∧ ¬ IsEnd delimiter line)
    (rest : List Text) : statementsFrom delimiter held (inner ++ rest) =
      statementsFrom delimiter (held ++ inner.map trimRight) rest := by
  induction inner generalizing held with
  | nil => rw [List.map_nil, List.append_nil, List.nil_append]
  | cons line inner ih =>
      obtain ⟨⟨hplain, hend⟩, hmore⟩ := List.forall_mem_cons.mp hinner
      have hstands : ¬ (held.isEmpty && isSeparator delimiter (trim line)) = true := by
        rw [Bool.and_eq_true, isSeparator_trim_iff, List.isEmpty_iff]
        rintro ⟨hnil, hseparates⟩
        exact hopen.elim (absurd hnil) fun hfirst => hfirst line rfl hseparates
      rw [IsEnd] at hend
      simp only [List.cons_append, statementsFrom, hplain, if_neg hstands, if_neg hend]
      rw [ih (.inl (by simp)) hmore]
      simp

/-- In front of a directive and at the end, what is held is a statement. -/
theorem statementsFrom_flush {held rest : List Text}
    (hrest : ∀ line ∈ rest.head?, delimiterDirective? (trim line) ≠ none) :
    statementsFrom delimiter held rest =
      flushStatement held ++ statementsFrom delimiter [] rest := by
  cases rest with
  | nil => simp [statementsFrom, flushStatement]
  | cons line rest =>
      obtain ⟨next, hnext⟩ := Option.ne_none_iff_exists'.mp (hrest line rfl)
      simp [statementsFrom, hnext, flushStatement]

/-- The lines of a statement are cut off as one. -/
theorem statementsFrom_append_statement (hword : IsWord delimiter) {lines rest : List Text}
    {text : Text} (h : IsStatement delimiter lines) (htext : Leaves delimiter lines text)
    (hends : IsEnded delimiter lines ∨
      ∀ line ∈ rest.head?, delimiterDirective? (trim line) ≠ none)
    (hnewline : ∀ line ∈ lines, '\n' ∉ line) :
    statementsFrom delimiter [] (lines ++ rest) = text :: statementsFrom delimiter [] rest := by
  by_cases hended : IsEnded delimiter lines
  · obtain ⟨last, hlast, hend⟩ := hended
    obtain ⟨front, rfl⟩ := List.getLast?_eq_some_iff.mp hlast
    obtain ⟨hfront, hplain⟩ := List.forall_mem_append.mp h.plain
    have hinner := h.inner
    rw [List.dropLast_concat] at hinner
    rw [List.append_assoc, List.singleton_append, statementsFrom_until (.inr ?_)
      (fun line hline => ⟨hfront line hline, by simpa [IsEnd] using hinner line hline⟩)
      ⟨hplain last (by simp), hend⟩, List.nil_append]
    · rw [(leaves_closeStatement hword h ⟨last, hlast, hend⟩ hnewline).unique htext]
    · intro line hline
      rw [Bool.eq_false_iff, ne_eq, isSeparator_trim_iff]
      exact h.first line hline
  · have hinner : ∀ line ∈ lines, delimiterDirective? (trim line) = none ∧
        ¬ IsEnd delimiter line := by
      intro line hline
      refine ⟨h.plain line hline, ?_⟩
      rw [← List.dropLast_append_getLast h.ne_nil, List.mem_append, List.mem_singleton] at hline
      rcases hline with hline | rfl
      · exact h.inner line hline
      · exact fun hend => hended ⟨_, List.getLast_mem_getLast? h.ne_nil, hend⟩
    obtain ⟨first, more, rfl⟩ := List.exists_cons_of_ne_nil h.ne_nil
    have hbare := isBlankText_trimRight_of_not_separates (h.first first rfl)
    rw [statementsFrom_held (.inr h.first) hinner, List.nil_append,
      statementsFrom_flush (hends.resolve_left hended), List.map_cons, flushStatement_cons hbare,
      ← List.map_cons, ← htext.whole (.inl hended), List.singleton_append]

/-- What begins with a directive begins with its line. -/
theorem IsCut.head?_lines {segments : List Segment} (h : IsCut delimiter segments)
    (hhead : ∀ segment ∈ segments.head?, segment.IsDirective) :
    ∀ line ∈ (segments.flatMap Segment.lines).head?, delimiterDirective? (trim line) ≠ none := by
  cases h with
  | nil => simp
  | directive hline =>
      rintro line ⟨⟩
      simp [hline]
  | separator =>
      obtain ⟨_, _, hdirective⟩ := hhead _ rfl
      cases hdirective
  | statement =>
      obtain ⟨_, _, hdirective⟩ := hhead _ rfl
      cases hdirective

/-- The statements of some lines are those of their segments. -/
theorem IsCut.statementsFrom_eq {segments : List Segment} (hword : IsWord delimiter)
    (h : IsCut delimiter segments)
    (hnewline : ∀ line ∈ segments.flatMap Segment.lines, '\n' ∉ line) :
    statementsFrom delimiter [] (segments.flatMap Segment.lines) =
      segments.filterMap Segment.statement? := by
  induction h with
  | nil => rfl
  | directive hline hmore ih =>
      obtain ⟨_, _, _, -, -, hnext, -⟩ := delimiterDirective?_eq_some.mp hline
      rw [List.flatMap_cons] at hnewline
      simpa [Segment.lines, statementsFrom, hline, flushStatement, Segment.statement?,
        List.filterMap_cons] using ih hnext (List.forall_mem_append.mp hnewline).2
  | separator hplain hline hmore ih =>
      rw [List.flatMap_cons] at hnewline
      simpa [Segment.lines, statementsFrom, hplain, isSeparator_trim_iff.mpr hline,
        Segment.statement?, List.filterMap_cons] using
          ih hword (List.forall_mem_append.mp hnewline).2
  | statement hlines htext hends hmore ih =>
      rw [List.flatMap_cons] at hnewline
      obtain ⟨hfront, hbehind⟩ := List.forall_mem_append.mp hnewline
      have hnext := hends.imp_right hmore.head?_lines
      rw [List.flatMap_cons, Segment.lines, statementsFrom_append_statement hword hlines htext
        hnext hfront, ih hword hbehind, List.filterMap_cons]
      rfl

/-! ## Existence -/

/-- The lines of a statement that is still open. -/
structure IsOpen (delimiter : Text) (held : List Text) : Prop where
  first : ∀ line ∈ held.head?, ¬ Separates delimiter line
  plain : ∀ line ∈ held, delimiterDirective? (trim line) = none
  inner : ∀ line ∈ held, ¬ IsEnd delimiter line

theorem isOpen_nil (delimiter : Text) : IsOpen delimiter [] := ⟨by simp, by simp, by simp⟩

section

variable {held : List Text} {line : Text}

theorem IsOpen.isStatement (h : IsOpen delimiter held) (hne : held ≠ []) :
    IsStatement delimiter held :=
  ⟨hne, h.first, h.plain, fun line hline => h.inner line (List.mem_of_mem_dropLast hline)⟩

theorem IsOpen.not_isEnded (h : IsOpen delimiter held) : ¬ IsEnded delimiter held := by
  rintro ⟨line, hline, hend⟩
  exact h.inner line (List.mem_of_getLast? hline) hend

/-- A further line belongs to the statement, be it the last one or not. -/
theorem IsOpen.concat (h : IsOpen delimiter held) (hfirst : held = [] → ¬ Separates delimiter line)
    (hplain : delimiterDirective? (trim line) = none) :
    IsStatement delimiter (held ++ [line]) where
  ne_nil := by simp
  first := by
    intro other hother
    by_cases hne : held = []
    · rw [hne] at hother
      obtain rfl : line = other := by simpa using hother
      exact hfirst hne
    · rw [List.head?_append_of_ne_nil _ hne] at hother
      exact h.first other hother
  plain := List.forall_mem_append.mpr ⟨h.plain, by simpa using hplain⟩
  inner := by
    rw [List.dropLast_concat]
    exact h.inner

end

/-- What is held is a statement wherever a directive or the end follows. -/
theorem exists_isCut_of_held (hword : IsWord delimiter) {held : List Text}
    {segments : List Segment} (hheld : IsOpen delimiter held)
    (hnewline : ∀ line ∈ held, '\n' ∉ line) (hcut : IsCut delimiter segments)
    (hhead : ∀ segment ∈ segments.head?, segment.IsDirective) :
    ∃ all, IsCut delimiter all ∧
      all.flatMap Segment.lines = held ++ segments.flatMap Segment.lines := by
  by_cases hne : held = []
  · exact ⟨segments, hcut, by rw [hne, List.nil_append]⟩
  · have hlines := hheld.isStatement hne
    have htext := leaves_unlines hword hlines hheld.not_isEnded hnewline
    exact ⟨_, .statement hlines htext (.inr hhead) hcut, rfl⟩

/-- All lines have segments, also behind those of an open statement. -/
theorem exists_isCut (hword : IsWord delimiter) {held lines : List Text}
    (hheld : IsOpen delimiter held) (hnewline : ∀ line ∈ held ++ lines, '\n' ∉ line) :
    ∃ segments, IsCut delimiter segments ∧ segments.flatMap Segment.lines = held ++ lines := by
  induction lines generalizing delimiter held with
  | nil =>
      rw [List.append_nil] at hnewline
      exact exists_isCut_of_held hword hheld hnewline .nil (by simp)
  | cons line lines ih =>
      obtain ⟨hfront, hbehind⟩ := List.forall_mem_append.mp hnewline
      have hmore := (List.forall_mem_cons.mp hbehind).2
      have hconcat : ∀ other ∈ held ++ [line], '\n' ∉ other :=
        List.forall_mem_append.mpr ⟨hfront, by simpa using hbehind line (by simp)⟩
      cases hdirective : delimiterDirective? (trim line) with
      | some next =>
          obtain ⟨_, _, _, -, -, hnext, -⟩ := delimiterDirective?_eq_some.mp hdirective
          obtain ⟨segments, hcut, hlines⟩ := ih hnext (isOpen_nil next) (by simpa using hmore)
          obtain ⟨all, hall, heq⟩ := exists_isCut_of_held hword hheld hfront
            (.directive hdirective hcut) (by rintro segment ⟨⟩; exact ⟨line, next, rfl⟩)
          exact ⟨all, hall, by rw [heq, List.flatMap_cons, hlines]; rfl⟩
      | none =>
          by_cases hseparates : held = [] ∧ Separates delimiter line
          · obtain ⟨rfl, hline⟩ := hseparates
            obtain ⟨segments, hcut, hlines⟩ := ih hword (isOpen_nil delimiter)
              (by simpa using hmore)
            refine ⟨_, .separator hdirective hline hcut, ?_⟩
            rw [List.flatMap_cons, hlines]
            rfl
          · have hlines := hheld.concat (not_and.mp hseparates) hdirective
            by_cases hend : IsEnd delimiter line
            · have hended : IsEnded delimiter (held ++ [line]) := ⟨line, by simp, hend⟩
              obtain ⟨segments, hcut, hrest⟩ := ih hword (isOpen_nil delimiter)
                (by simpa using hmore)
              refine ⟨_, .statement hlines (leaves_closeStatement hword hlines hended hconcat)
                (.inl hended) hcut, ?_⟩
              rw [List.flatMap_cons, hrest]
              simp [Segment.lines]
            · have hopen : IsOpen delimiter (held ++ [line]) :=
                ⟨hlines.first, hlines.plain,
                  List.forall_mem_append.mpr ⟨hheld.inner, by simpa using hend⟩⟩
              obtain ⟨segments, hcut, hrest⟩ := ih hword hopen (by simpa using hnewline)
              exact ⟨segments, hcut, by simpa using hrest⟩

theorem isWord_semicolon : IsWord semicolon := ⟨by simp [semicolon], by decide⟩

/-- The lines of every text have segments. -/
theorem exists_isCut_lines (text : Text) :
    ∃ segments, IsCut semicolon segments ∧ segments.flatMap Segment.lines = lines text := by
  have hnewline : ∀ line ∈ [] ++ lines text, '\n' ∉ line :=
    fun _ hline => newline_notMem_of_mem_lines hline
  exact exists_isCut isWord_semicolon (isOpen_nil semicolon) hnewline

/-! ## Uniqueness -/

/-- The lines of a statement end at the first place where they may. -/
theorem IsStatement.eq_nil_of_append {lines more rest : List Text}
    (h : IsStatement delimiter (lines ++ more))
    (hends : IsEnded delimiter lines ∨
      ∀ line ∈ (more ++ rest).head?, delimiterDirective? (trim line) ≠ none) : more = [] := by
  by_contra hne
  rcases hends with ⟨last, hlast, hend⟩ | hdirective
  · have hinner := h.inner
    rw [List.dropLast_append_of_ne_nil hne] at hinner
    exact hinner last (List.mem_append_left _ (List.mem_of_getLast? hlast)) hend
  · obtain ⟨line, more, rfl⟩ := List.exists_cons_of_ne_nil hne
    exact hdirective line rfl (h.plain line (by simp))

/-- Two statements in front of the same lines are the same ones. -/
theorem IsStatement.lines_eq {lines others rest restOther : List Text}
    (h : IsStatement delimiter lines) (hother : IsStatement delimiter others)
    (hends : IsEnded delimiter lines ∨
      ∀ line ∈ rest.head?, delimiterDirective? (trim line) ≠ none)
    (hendsOther : IsEnded delimiter others ∨
      ∀ line ∈ restOther.head?, delimiterDirective? (trim line) ≠ none)
    (heq : lines ++ rest = others ++ restOther) : lines = others := by
  rcases List.append_eq_append_iff.mp heq with ⟨more, rfl, rfl⟩ | ⟨more, rfl, rfl⟩
  · rw [hother.eq_nil_of_append hends, List.append_nil]
  · rw [h.eq_nil_of_append hendsOther, List.append_nil]

/-- A statement begins with a line that is neither a directive nor a separator. -/
theorem IsStatement.exists_cons {lines : List Text} (h : IsStatement delimiter lines) :
    ∃ line more, lines = line :: more ∧ delimiterDirective? (trim line) = none ∧
      ¬ Separates delimiter line := by
  obtain ⟨line, more, rfl⟩ := List.exists_cons_of_ne_nil h.ne_nil
  exact ⟨line, more, rfl, h.plain line (by simp), h.first line rfl⟩

/-- There is only one way to have segments. -/
theorem IsCut.unique {segments others : List Segment} (h : IsCut delimiter segments)
    (hother : IsCut delimiter others)
    (heq : segments.flatMap Segment.lines = others.flatMap Segment.lines) : segments = others := by
  induction h generalizing others with
  | nil =>
      cases hother with
      | nil => rfl
      | directive | separator => cases heq
      | statement hlines =>
          obtain ⟨line, more, rfl, -⟩ := hlines.exists_cons
          cases heq
  | @directive delimiter line next segments hline hmore ih =>
      cases hother with
      | nil => cases heq
      | directive hlineOther hmoreOther =>
          obtain ⟨rfl, hrest⟩ := List.cons.inj heq
          obtain rfl := Option.some.inj (hline.symm.trans hlineOther)
          rw [ih hmoreOther hrest]
      | separator hplain =>
          obtain ⟨rfl, -⟩ := List.cons.inj heq
          rw [hplain] at hline
          cases hline
      | statement hlines =>
          obtain ⟨first, more, rfl, hplain, -⟩ := hlines.exists_cons
          obtain ⟨rfl, -⟩ := List.cons.inj heq
          rw [hplain] at hline
          cases hline
  | @separator delimiter line segments hplain hline hmore ih =>
      cases hother with
      | nil => cases heq
      | directive hlineOther =>
          obtain ⟨rfl, -⟩ := List.cons.inj heq
          rw [hplain] at hlineOther
          cases hlineOther
      | separator _ _ hmoreOther =>
          obtain ⟨rfl, hrest⟩ := List.cons.inj heq
          rw [ih hmoreOther hrest]
      | statement hlines =>
          obtain ⟨first, more, rfl, -, hfirst⟩ := hlines.exists_cons
          obtain ⟨rfl, -⟩ := List.cons.inj heq
          exact absurd hline hfirst
  | @statement delimiter text lines segments hlines htext hends hmore ih =>
      obtain ⟨first, more, hfirst, hplain, hseparates⟩ := hlines.exists_cons
      cases hother with
      | nil =>
          rw [hfirst] at heq
          cases heq
      | directive hline =>
          rw [hfirst] at heq
          obtain ⟨rfl, -⟩ := List.cons.inj heq
          rw [hplain] at hline
          cases hline
      | separator _ hline =>
          rw [hfirst] at heq
          obtain ⟨rfl, -⟩ := List.cons.inj heq
          exact absurd hline hseparates
      | statement hlinesOther htextOther hendsOther hmoreOther =>
          rw [List.flatMap_cons, List.flatMap_cons, Segment.lines, Segment.lines] at heq
          obtain rfl := hlines.lines_eq hlinesOther (hends.imp_right hmore.head?_lines)
            (hendsOther.imp_right hmoreOther.head?_lines) heq
          rw [htext.unique htextOther, ih hmoreOther (List.append_cancel_left heq)]

end

/-! ## Statements without directives -/

/-- A segment that is a statement. -/
def Segment.isStatement (segment : Segment) : Bool := segment.statement?.isSome

/-- Where the delimiter is not set, statements may stand one behind the other. -/
theorem IsCut.filter_isStatement {delimiter : Text} {segments : List Segment}
    (h : IsCut delimiter segments)
    (hplain : ∀ line ∈ segments.flatMap Segment.lines, delimiterDirective? (trim line) = none) :
    IsCut delimiter (segments.filter Segment.isStatement) := by
  induction h with
  | nil => exact .nil
  | directive hline =>
      rw [hplain _ (by simp [Segment.lines])] at hline
      cases hline
  | separator _ _ _ ih =>
      rw [List.flatMap_cons] at hplain
      exact ih (List.forall_mem_append.mp hplain).2
  | @statement delimiter text lines segments hlines htext hends hmore ih =>
      rw [List.flatMap_cons] at hplain
      have hbehind := (List.forall_mem_append.mp hplain).2
      refine .statement hlines htext (hends.imp_right fun hhead => ?_) (ih hbehind)
      cases segments with
      | nil => simp
      | cons segment segments =>
          obtain ⟨line, next, rfl⟩ := hhead segment rfl
          cases hmore with
          | directive hline =>
              rw [hbehind line (by simp [Segment.lines])] at hline
              cases hline

/-- Under the semicolon a statement is its lines without the blanks at their ends. -/
theorem IsCut.filterMap_statement? {segments : List Segment} (h : IsCut semicolon segments)
    (hplain : ∀ line ∈ segments.flatMap Segment.lines, delimiterDirective? (trim line) = none) :
    segments.filterMap Segment.statement? = ((segments.filter Segment.isStatement).map
      fun segment => segment.lines.map trimRight).map unlines := by
  generalize hdelimiter : semicolon = delimiter at h
  induction h with
  | nil => rfl
  | directive hline =>
      rw [hplain _ (by simp [Segment.lines])] at hline
      cases hline
  | separator _ _ _ ih =>
      rw [List.flatMap_cons] at hplain
      exact ih (List.forall_mem_append.mp hplain).2 hdelimiter
  | statement _ htext _ _ ih =>
      rw [List.flatMap_cons] at hplain
      have hmore := ih (List.forall_mem_append.mp hplain).2 hdelimiter
      simp only [List.filterMap_cons, Segment.statement?, hmore, htext.whole (.inr hdelimiter.symm)]
      rfl

/-- Texts one below the other are their lines one below the other. -/
theorem unlines_map_unlines {blocks : List (List Text)} (h : ∀ block ∈ blocks, block ≠ []) :
    unlines (blocks.map unlines) = unlines blocks.flatten := by
  induction blocks with
  | nil => rfl
  | cons block blocks ih =>
      obtain ⟨hblock, hblocks⟩ := List.forall_mem_cons.mp h
      by_cases hrest : blocks = []
      · rw [hrest]
        simp [unlines, join]
      · obtain ⟨next, more, rfl⟩ := List.exists_cons_of_ne_nil hrest
        have hflat : (next :: more).flatten ≠ [] := by
          rw [List.flatten_cons]
          exact List.append_ne_nil_of_left_ne_nil (hblocks next (by simp)) _
        rw [List.map_cons, unlines_cons_of_ne_nil _ (by simp), ih hblocks,
          List.flatten_cons (l := block), unlines_append hblock hflat]

/-- Every segment has a line. -/
theorem IsCut.lines_ne_nil {delimiter : Text} {segments : List Segment}
    (h : IsCut delimiter segments) : ∀ segment ∈ segments, segment.lines ≠ [] := by
  induction h with
  | nil => simp
  | directive _ _ ih | separator _ _ _ ih =>
      exact List.forall_mem_cons.mpr ⟨by simp [Segment.lines], ih⟩
  | statement hlines _ _ _ ih => exact List.forall_mem_cons.mpr ⟨hlines.ne_nil, ih⟩

/-- The lines of some of the segments are lines of all of them. -/
theorem mem_flatMap_lines_of_filter {segments : List Segment} {keep : Segment → Bool} {line : Text}
    (h : line ∈ (segments.filter keep).flatMap Segment.lines) :
    line ∈ segments.flatMap Segment.lines := by
  obtain ⟨segment, hsegment, hline⟩ := List.mem_flatMap.mp h
  exact List.mem_flatMap.mpr ⟨segment, List.mem_of_mem_filter hsegment, hline⟩

/-- The statements of segments, one below the other, have the lines of those segments that are
statements, without the blanks at their ends. -/
theorem IsCut.lines_unlines_statements {segments : List Segment} (h : IsCut semicolon segments)
    (hnewline : ∀ line ∈ segments.flatMap Segment.lines, '\n' ∉ line)
    (hplain : ∀ line ∈ segments.flatMap Segment.lines, delimiterDirective? (trim line) = none)
    (hne : segments.filter Segment.isStatement ≠ []) :
    lines (unlines (segments.filterMap Segment.statement?)) =
      ((segments.filter Segment.isStatement).flatMap Segment.lines).map trimRight := by
  have hlines := (h.filter_isStatement hplain).lines_ne_nil
  have hblocks : ∀ block ∈ (segments.filter Segment.isStatement).map
      fun segment => segment.lines.map trimRight, block ≠ [] := by
    intro block hblock
    obtain ⟨segment, hsegment, rfl⟩ := List.mem_map.mp hblock
    simpa using hlines segment hsegment
  have hflat : ((segments.filter Segment.isStatement).map
      fun segment => segment.lines.map trimRight).flatten =
        ((segments.filter Segment.isStatement).flatMap Segment.lines).map trimRight := by
    rw [List.map_flatMap, List.flatMap_def]
  rw [h.filterMap_statement? hplain, unlines_map_unlines hblocks, hflat]
  refine lines_unlines ?_ fun line hline => ?_
  · obtain ⟨segment, rest, hkept⟩ := List.exists_cons_of_ne_nil hne
    have hfirst := hlines segment (hkept ▸ List.mem_cons_self)
    simp [hkept, hfirst]
  · obtain ⟨raw, hraw, rfl⟩ := List.mem_map.mp hline
    exact fun hc => hnewline raw (mem_flatMap_lines_of_filter hraw)
      ((List.rdropWhile_prefix isBlank raw).subset hc)

/-- What is no statement adds none. -/
theorem filterMap_statement?_filter (segments : List Segment) :
    (segments.filter Segment.isStatement).filterMap Segment.statement? =
      segments.filterMap Segment.statement? := by
  rw [List.filterMap_filter]
  refine congrArg (List.filterMap · segments) (funext fun segment => ?_)
  cases segment <;> rfl

/-- Statements one below the other are cut the same way again. -/
theorem statements_unlines_statements {text : Text}
    (hplain : ∀ line ∈ lines text, delimiterDirective? (trim line) = none) :
    statements (unlines (statements text)) = statements text := by
  have hnewline : ∀ line ∈ lines text, '\n' ∉ line := fun _ => newline_notMem_of_mem_lines
  obtain ⟨segments, hcut, hlines⟩ := exists_isCut_lines text
  rw [← hlines] at hplain hnewline
  have hstatements : statements text = segments.filterMap Segment.statement? := by
    rw [statements, ← hlines]
    exact hcut.statementsFrom_eq isWord_semicolon hnewline
  rw [hstatements]
  by_cases hne : segments.filter Segment.isStatement = []
  · rw [← filterMap_statement?_filter, hne]
    rfl
  · -- the segments that are statements may follow one another, and they are those of the new text
    rw [statements, hcut.lines_unlines_statements hnewline hplain hne,
      statementsFrom_map_trimRight,
      (hcut.filter_isStatement hplain).statementsFrom_eq isWord_semicolon
        fun line hline => hnewline line (mem_flatMap_lines_of_filter hline),
      filterMap_statement?_filter]

/-! ## The segments of a text -/

/-- Every line of a text is a directive, a separator or a line of one statement, in one way only;
the statements of the text are those of its segments. Where the delimiter is not set, statements one
below the other are cut the same way again. -/
theorem statements_segmented (text : Text) :
    (∃! segments, IsCut semicolon segments ∧ segments.flatMap Segment.lines = lines text) ∧
    (∀ segments, IsCut semicolon segments → segments.flatMap Segment.lines = lines text →
      segments.filterMap Segment.statement? = statements text) ∧
    ((∀ line ∈ lines text, delimiterDirective? (trim line) = none) →
      statements (unlines (statements text)) = statements text) := by
  have hnewline : ∀ line ∈ lines text, '\n' ∉ line := fun _ => newline_notMem_of_mem_lines
  refine ⟨?_, ?_, statements_unlines_statements⟩
  · obtain ⟨segments, hcut, hlines⟩ := exists_isCut_lines text
    refine ⟨segments, ⟨hcut, hlines⟩, ?_⟩
    rintro others ⟨hother, hlinesOther⟩
    exact hother.unique hcut (hlinesOther.trans hlines.symm)
  · intro segments hcut hlines
    rw [statements, ← hlines]
    exact (hcut.statementsFrom_eq isWord_semicolon (hlines ▸ hnewline)).symm

/-- A statement in front of a directive, and one that has another delimiter. -/
def delimitedDump : Text := "DROP TABLE t\ndelimiter $$\n\nBEGIN\n  ;  \nEND $$"

/-- The segments of these lines. -/
def delimitedSegments : List Segment :=
  [.statement ["DROP TABLE t"] "DROP TABLE t", .directive "delimiter $$" "$$", .separator "",
    .statement ["BEGIN", "  ;  ", "END $$"] "BEGIN\n  ;\nEND"]

theorem isCut_delimitedSegments : IsCut semicolon delimitedSegments := by
  refine .statement ⟨by decide, by decide, by decide, by decide⟩
    ⟨fun _ => by decide, fun hended => absurd hended (by decide), by decide⟩
    (.inr fun segment hsegment => ⟨_, _, (Option.some.inj hsegment).symm⟩)
    (.directive (by decide) (.separator (by decide) (by decide)
      (.statement ⟨by decide, by decide, by decide, by decide⟩ ⟨fun hwhole => ?_, fun _ _ => ?_, ?_⟩
        (.inl (by decide)) .nil)))
  · exact absurd hwhole (by decide)
  · exact ⟨by decide, [' '], by decide, by decide⟩
  · decide

/-- Its statements are those of its segments; and two statements that are parted by a separator are
cut the same way again. -/
theorem statements_segmented_delimited :
    delimitedSegments.filterMap Segment.statement? = statements delimitedDump ∧
      statements (unlines (statements "USE a ; \n;\nUSE b")) = statements "USE a ; \n;\nUSE b" := by
  constructor
  · exact (statements_segmented delimitedDump).2.1 _ isCut_delimitedSegments (by decide)
  · exact (statements_segmented "USE a ; \n;\nUSE b").2.2 (by decide)

end SchemaMigration.Dump
