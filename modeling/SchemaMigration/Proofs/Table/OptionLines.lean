import SchemaMigration.Proofs.Table.Counter
import SchemaMigration.Proofs.Table.Origin

/-!
# Option lines

The options of a table may stand on several lines, which are joined by spaces; the last one ends in
a semicolon, which goes. Taking the row counter out of each line is not the same as taking it out of
the options: where a line begins with a counter, the space in front of it would go as well.

## Main Definitions

* `AreClosed` - option lines of which just the last one ends in a semicolon
* `optionParts` - what stands on such lines, without the semicolon
* `Table.optionsText_eq` - the options are the parts with spaces between them
* `Table.optionsText_withoutCounter_iff` - when the counter is taken out of each line as it is out
  of the options
* `Table.visible_optionsText` - the options have the characters of the lines, but for blanks
* `Table.optionLines`, `Table.CountersApart` - the option lines of some lines from the closing
  parenthesis on, and how the counters stand on them
* `Table.optionsText_optionLines_iff` - the same for such lines
-/

namespace SchemaMigration

open Text

/-- Lines with one semicolon, at the end of the last one. -/
def EndWithSemicolon (lines : List Text) : Prop :=
  ∃ front last, lines = front ++ [last ++ [';']] ∧ (∀ line ∈ front, ';' ∉ line) ∧ ';' ∉ last

/-- Option lines with one semicolon, at the end of the last one. -/
structure AreClosed (lines : List Text) : Prop where
  trimmed : ∀ line ∈ lines, trim line = line
  once : EndWithSemicolon lines

/-- What stands on option lines, without the semicolon behind them. -/
def optionParts (lines : List Text) : List Text :=
  (lines.map fun line => trimRight (dropTrailing ';' line)).filter (! ·.isEmpty)

theorem optionParts_append {front : List Text} {last : Text}
    (h : AreClosed (front ++ [last ++ [';']])) (hfront : ∀ line ∈ front, ';' ∉ line)
    (hlast : ';' ∉ last) :
    optionParts (front ++ [last ++ [';']]) = (front ++ [trimRight last]).filter (! ·.isEmpty) := by
  have hsame : front.map (fun line => trimRight (dropTrailing ';' line)) = front := by
    conv_rhs => rw [← List.map_id front]
    refine List.map_congr_left fun line hline => ?_
    have htrim := h.trimmed line (by simp [hline])
    rw [dropTrailing_eq_self fun hmem => hfront line hline (List.mem_of_getLast? hmem), ← htrim,
      trim, trimRight_trimRight, id]
  have hdrop : dropTrailing ';' (last ++ [';']) = last := by
    rw [dropTrailing_append (by simp), dropTrailing_eq_self fun hmem =>
      hlast (List.mem_of_getLast? hmem)]
  rw [optionParts, List.map_append, hsame, List.map_singleton, hdrop]

/-- The parts are trimmed and not empty. -/
theorem AreClosed.isTrimmed {lines : List Text} (h : AreClosed lines) :
    ∀ part ∈ optionParts lines, IsTrimmed part := by
  obtain ⟨front, last, rfl, hfront, hlast⟩ := h.once
  rw [optionParts_append h hfront hlast]
  intro part hpart
  obtain ⟨hmem, hne⟩ := List.mem_filter.mp hpart
  refine isTrimmed_of_trim_eq (by simpa using hne) ?_
  rcases List.mem_append.mp hmem with hmem | hmem
  · exact h.trimmed part (by simp [hmem])
  · -- nothing but the semicolon has been behind the last part
    obtain rfl := List.mem_singleton.mp hmem
    have htrim := h.trimmed (last ++ [';']) (by simp)
    have hleft : trimLeft last = last := by
      have hwhole : trimLeft (last ++ [';']) = last ++ [';'] := by
        rw [← htrim, trimLeft_trim]
      rw [trimLeft, dropWhile_append_stop (by decide)] at hwhole
      exact List.append_cancel_right hwhole
    rw [trim_trimRight, trim, hleft]

/-- What stands in front of the last of several texts with spaces between them. -/
def leadOf (texts : List Text) : Text :=
  if texts.isEmpty then [] else join " " texts ++ [' ']

theorem join_space_append (texts : List Text) (last : Text) :
    join " " (texts ++ [last]) = leadOf texts ++ last := by
  cases texts with
  | nil => rfl
  | cons first texts =>
      rw [List.cons_append, join_space_cons, List.flatMap_append, leadOf, if_neg (by simp),
        join_space_cons]
      simp

namespace Table

/-- The options are the parts with spaces between them. -/
theorem optionsText_eq {lines : List Text} (h : AreClosed lines) :
    optionsText lines = join " " (optionParts lines) := by
  obtain ⟨front, last, rfl, hfront, hlast⟩ := h.once
  rw [optionParts_append h hfront hlast]
  generalize hsome : front.filter (! ·.isEmpty) = texts
  have htexts : ∀ text ∈ texts, IsTrimmed text := by
    intro text htext
    obtain ⟨hmem, hne⟩ := List.mem_filter.mp (hsome ▸ htext)
    exact isTrimmed_of_trim_eq (by simpa using hne) (h.trimmed text (by simp [hmem]))
  have hclosed : IsTrimmed (last ++ [';']) :=
    isTrimmed_of_trim_eq (by simp) (h.trimmed _ (by simp))
  -- the semicolon is the last character of the joined lines
  have hjoin : trim (join " " ((front ++ [last ++ [';']]).filter (! ·.isEmpty)))
      = leadOf texts ++ last ++ [';'] := by
    have hall : ∀ text ∈ texts ++ [last ++ [';']], IsTrimmed text := by
      intro text htext
      rcases List.mem_append.mp htext with htext | htext
      · exact htexts text htext
      · exact List.mem_singleton.mp htext ▸ hclosed
    rw [List.filter_append, hsome, List.filter_cons_of_pos (by simp), List.filter_nil,
      (IsTrimmed.join (by simp) hall).trim_eq, join_space_append, List.append_assoc]
  have hends : endsWith ";" (leadOf texts ++ last ++ [';']) = true :=
    List.isSuffixOf_iff_suffix.mpr ⟨_, rfl⟩
  rw [optionsText, hjoin, if_pos hends, List.dropLast_concat, List.filter_append, hsome]
  by_cases hnil : trimRight last = []
  · -- nothing but the semicolon stands on the last line
    have hblank : ∀ c ∈ last, isBlank c = true := by
      obtain ⟨pad, hpad, heq⟩ := exists_trimRight last
      rw [heq, hnil]
      exact hpad
    rw [hnil, trimRight_append_of_blank _ hblank, leadOf]
    split
    · rename_i hempty
      rw [List.isEmpty_iff.mp hempty]
      rfl
    · rename_i hne
      have htrimmed := IsTrimmed.join (by simpa using hne) htexts
      have hself : trimRight (join " " texts) = join " " texts := by
        rw [← htrimmed.trim_eq, trim, trimRight_trimRight]
      have hnone : [([] : Text)].filter (! ·.isEmpty) = [] := rfl
      rw [trimRight_append_of_blank _ (by decide), hself, hnone, List.append_nil]
  · rw [trimRight_append hnil, ← join_space_append, List.filter_cons_of_pos (by simpa using hnil),
      List.filter_nil]

end Table

theorem trim_append_semicolon (text : Text) : trim (text ++ [';']) = trimLeft text ++ [';'] := by
  have hlast : ∀ c ∈ (text ++ [';']).getLast?, isBlank c = false := by
    rw [List.getLast?_concat]
    rintro c ⟨⟩
    rfl
  rw [trim_eq_trimLeft hlast, trimLeft, dropWhile_append_stop (by decide), trimLeft]

/-- The semicolon stays behind the last line. -/
theorem withoutCounter_append_semicolon (text : Text) :
    withoutCounter (text ++ [';']) = withoutCounter text ++ [';'] :=
  withoutCounter_append (List.forall_mem_singleton.mpr endsSetting_semicolon)
    (.inl (by rintro c ⟨⟩; rfl))

/-- Taking the counter out of each of some lines leaves the semicolon where it is. -/
protected theorem EndWithSemicolon.withoutCounter {lines : List Text} (h : EndWithSemicolon lines) :
    EndWithSemicolon (lines.map withoutCounter) := by
  obtain ⟨front, last, rfl, hfront, hlast⟩ := h
  have hsubset (line : Text) : withoutCounter line ⊆ line := (withoutCounter_sublist line).subset
  refine ⟨front.map withoutCounter, withoutCounter last, ?_, ?_, fun hmem =>
    hlast (hsubset last hmem)⟩
  · rw [List.map_append, List.map_singleton, withoutCounter_append_semicolon]
  · intro line hline
    obtain ⟨raw, hraw, rfl⟩ := List.mem_map.mp hline
    exact fun hmem => hfront raw hraw (hsubset raw hmem)

/-- So does taking the blanks at their ends away. -/
theorem EndWithSemicolon.trim {lines : List Text} (h : EndWithSemicolon lines) :
    EndWithSemicolon (lines.map trim) := by
  obtain ⟨front, last, rfl, hfront, hlast⟩ := h
  refine ⟨front.map Text.trim, trimLeft last, ?_, ?_, fun hmem =>
    hlast ((List.dropWhile_suffix isBlank).subset hmem)⟩
  · rw [List.map_append, List.map_singleton, trim_append_semicolon]
  · intro line hline
    obtain ⟨raw, hraw, rfl⟩ := List.mem_map.mp hline
    exact fun hmem => hfront raw hraw ((trim_isInfix raw).subset hmem)

theorem trim_withoutCounter_subset (text : Text) : trim (withoutCounter text) ⊆ text :=
  fun _ hc => (withoutCounter_sublist text).subset ((trim_isInfix _).subset hc)

namespace Table

/-- All lines are options up to the first that ends in a semicolon. -/
theorem splitTrailer_append {front : List Text} (hfront : ∀ line ∈ front, ';' ∉ line)
    (last : Text) : (splitTrailer (front ++ [last])).1 = front ++ [last] := by
  induction front with
  | nil =>
      rw [List.nil_append, splitTrailer]
      split <;> rfl
  | cons line front ih =>
      obtain ⟨hline, hfront⟩ := List.forall_mem_cons.mp hfront
      have hends : ¬ endsWith ";" line = true := fun hends =>
        hline ((List.isSuffixOf_iff_suffix.mp hends).subset (by simp))
      rw [List.cons_append, splitTrailer, if_neg hends]
      exact congrArg (line :: ·) (ih hfront)

theorem splitTrailer_eq_self {lines : List Text} (h : AreClosed lines) :
    (splitTrailer lines).1 = lines := by
  obtain ⟨front, last, rfl, hfront, -⟩ := h.once
  exact splitTrailer_append hfront _

/-- Lines on which nothing stands make no difference behind the first one. -/
theorem optionsText_splitTrailer_filter {first : Text} {lines : List Text}
    (h : AreClosed (first :: lines)) :
    optionsText (splitTrailer (first :: lines.filter (! ·.isEmpty))).1
      = optionsText (first :: lines) := by
  have hall : (splitTrailer (first :: lines.filter (! ·.isEmpty))).1
      = first :: lines.filter (! ·.isEmpty) := by
    obtain ⟨front, last, hlines, hfront, -⟩ := h.once
    cases front with
    | nil =>
        obtain ⟨rfl, rfl⟩ := List.cons.inj hlines
        exact splitTrailer_append (List.forall_mem_nil _) _
    | cons other front =>
        obtain ⟨rfl, rfl⟩ := List.cons.inj hlines
        obtain ⟨hfirst, hfront⟩ := List.forall_mem_cons.mp hfront
        have hlast : [last ++ [';']].filter (! ·.isEmpty) = [last ++ [';']] := by
          simp
        rw [show front.append [last ++ [';']] = front ++ [last ++ [';']] from rfl,
          List.filter_append, hlast, ← List.cons_append]
        refine splitTrailer_append (List.forall_mem_cons.mpr ⟨hfirst, fun line hline => ?_⟩) _
        exact hfront line (List.mem_filter.mp hline).1
  have hsome : (first :: lines.filter (! ·.isEmpty)).filter (! ·.isEmpty)
      = (first :: lines).filter (! ·.isEmpty) := by
    simp [List.filter_cons]
  rw [hall, optionsText, optionsText, hsome]

end Table

/-- Taking the counter out of each of some option lines leaves option lines. -/
protected theorem AreClosed.withoutCounter {lines : List Text} (h : AreClosed lines) :
    AreClosed (lines.map fun line => trim (withoutCounter line)) where
  trimmed line hline := by
    obtain ⟨raw, -, rfl⟩ := List.mem_map.mp hline
    exact trim_trim _
  once := by
    have hlines := h.once.withoutCounter.trim
    rwa [List.map_map] at hlines

theorem optionParts_withoutCounter {lines : List Text} (h : AreClosed lines) :
    optionParts (lines.map fun line => trim (withoutCounter line))
      = ((optionParts lines).map fun part => trim (withoutCounter part)).filter (! ·.isEmpty) := by
  have hclosed := h.withoutCounter
  obtain ⟨front, last, rfl, hfront, hlast⟩ := h.once
  -- a part that is empty has been empty before, or consisted of counters
  have hfilter (parts : List Text) :
      ((parts.filter (! ·.isEmpty)).map fun part => trim (withoutCounter part)).filter (! ·.isEmpty)
        = (parts.map fun part => trim (withoutCounter part)).filter (! ·.isEmpty) := by
    induction parts with
    | nil => rfl
    | cons part parts ih =>
        cases part with
        | nil => exact ih
        | cons c part =>
            rw [List.filter_cons_of_pos rfl, List.map_cons, List.map_cons, List.filter_cons,
              List.filter_cons, ih]
  have hsame : trimRight (trimLeft (withoutCounter last))
      = trim (withoutCounter (trimRight last)) := by
    rw [← trim, ← trim_withoutCounter_trim last, ← trim_withoutCounter_trim (trimRight last),
      trim_trimRight]
  have hnone : ';' ∉ trimLeft (withoutCounter last) := fun hmem =>
    hlast ((withoutCounter_sublist last).subset ((List.dropWhile_suffix isBlank).subset hmem))
  rw [optionParts_append h hfront hlast, hfilter, List.map_append, List.map_append,
    List.map_singleton, List.map_singleton, ← hsame, withoutCounter_append_semicolon,
    trim_append_semicolon]
  rw [List.map_append, List.map_singleton, withoutCounter_append_semicolon,
    trim_append_semicolon] at hclosed
  refine optionParts_append hclosed (fun line hline => ?_) hnone
  obtain ⟨raw, hraw, rfl⟩ := List.mem_map.mp hline
  exact fun hmem => hfront raw hraw (trim_withoutCounter_subset raw hmem)

namespace Table

theorem optionsText_withoutCounter_iff {lines : List Text} (h : AreClosed lines) :
    optionsText (lines.map fun line => trim (withoutCounter line)) =
        trim (withoutCounter (optionsText lines)) ↔
      ∀ part ∈ ((optionParts lines).dropWhile fun part => (withoutCounter part).isEmpty).tail,
        (counterSetting? none part).isSome = true →
          withoutCounter part = spaced (trim (withoutCounter part)) := by
  rw [optionsText_eq h, optionsText_eq h.withoutCounter, optionParts_withoutCounter h, eq_comm,
    trim_withoutCounter_join_iff h.isTrimmed]
  refine forall₂_congr fun part hpart => leftBehindSpace_eq_iff (h.isTrimmed part ?_)
  exact (List.dropWhile_suffix _).subset (List.mem_of_mem_tail hpart)

end Table

/-! ## Visible characters -/

/-- The characters of a text that are no blanks. -/
def visible (text : Text) : Text := text.filter (! isBlank ·)

@[simp] theorem visible_append (front back : Text) :
    visible (front ++ back) = visible front ++ visible back :=
  List.filter_append ..

theorem visible_eq_nil {text : Text} (h : ∀ c ∈ text, isBlank c = true) : visible text = [] := by
  rw [visible, List.filter_eq_nil_iff]
  intro c hc
  simp [h c hc]

@[simp] theorem visible_trim (text : Text) : visible (trim text) = visible text := by
  obtain ⟨front, back, heq, hfront, hback⟩ := exists_trim text
  conv_rhs => rw [heq, visible_append, visible_append, visible_eq_nil hfront, visible_eq_nil hback]
  simp

theorem visible_trimLeft (text : Text) : visible (trimLeft text) = visible text := by
  conv_rhs => rw [← List.takeWhile_append_dropWhile (p := isBlank) (l := text), visible_append,
    visible_eq_nil fun c hc => List.mem_takeWhile_imp hc]
  rfl

@[simp] theorem visible_singleSpaced (text : Text) :
    visible (singleSpaced text) = visible text := by
  induction text with
  | nil => rfl
  | cons c text ih =>
      cases hc : isBlank c with
      | false => simpa [visible, singleSpaced_cons_of_neg hc, hc] using ih
      | true =>
          have hgone : visible (c :: text) = visible text := by simp [visible, hc]
          rw [singleSpaced_cons_of_pos hc, hgone]
          split
          · exact ih
          · exact ih

/-- The layout of a text is not visible. -/
theorem visible_squash (text : Text) : visible (squash text) = visible text := by
  rw [squash_eq, visible_singleSpaced, visible_trim]

theorem visible_join (texts : List Text) :
    visible (join " " (texts.filter (! ·.isEmpty))) = texts.flatMap visible := by
  have hall : (texts.filter (! ·.isEmpty)).flatMap visible = texts.flatMap visible := by
    induction texts with
    | nil => rfl
    | cons text texts ih =>
        cases text with
        | nil => exact ih
        | cons c text => exact congrArg (visible (c :: text) ++ ·) ih
  rw [← hall]
  generalize texts.filter (! ·.isEmpty) = some
  cases some with
  | nil => rfl
  | cons first some =>
      rw [join_space_cons, visible_append, List.flatMap_cons]
      refine congrArg (visible first ++ ·) ?_
      induction some with
      | nil => rfl
      | cons text some ih =>
          rw [List.flatMap_cons, List.flatMap_cons, visible_append, ih]
          rfl

namespace Table

/-- The options have the characters of the lines, but for blanks and the semicolon. -/
theorem visible_optionsText {lines : List Text} (h : AreClosed lines) :
    visible (optionsText lines) ++ [';'] = lines.flatMap visible := by
  rw [optionsText_eq h]
  obtain ⟨front, last, rfl, hfront, hlast⟩ := h.once
  have hlastVisible : visible (trimRight last) = visible last := by
    rw [← visible_trim, trim_trimRight, visible_trim]
  rw [optionParts_append h hfront hlast, visible_join, List.flatMap_append, List.flatMap_append,
    List.flatMap_singleton, List.flatMap_singleton, hlastVisible, visible_append, List.append_assoc]
  rfl

/-- Of what is visible, taking the counter out leaves the same in the lines and in the options. -/
theorem visible_withoutCounter {lines : List Text} (h : AreClosed lines) :
    visible (withoutCounter (optionsText lines))
      = visible (optionsText (lines.map fun line => trim (withoutCounter line))) := by
  rw [optionsText_eq h, optionsText_eq h.withoutCounter, optionParts_withoutCounter h, visible_join,
    List.flatMap_map]
  have htrimmed := h.isTrimmed
  cases hparts : optionParts lines with
  | nil => rfl
  | cons part parts =>
      rw [hparts] at htrimmed
      obtain ⟨hpart, hrest⟩ := List.forall_mem_cons.mp htrimmed
      rw [withoutCounter_join hpart hrest, visible_append, List.flatMap_cons, visible_trim]
      refine congrArg (visible (withoutCounter part) ++ ·) ?_
      have hspace (text : Text) : visible (leftBehindSpace text)
          = visible (trim (withoutCounter text)) := by
        rw [← visible_trim, trim_leftBehindSpace]
      have hflat (texts : List Text) : visible (texts.flatMap leftBehindSpace)
          = texts.flatMap fun text => visible (trim (withoutCounter text)) := by
        induction texts with
        | nil => rfl
        | cons text texts ih =>
            rw [List.flatMap_cons, visible_append, ih, hspace, List.flatMap_cons]
      exact hflat parts

end Table

/-! ## The line that closes -/

namespace TableLine

/-- A line that begins with a closing parenthesis closes the body. -/
theorem ofText_closing (rest : Text) : ofText (')' :: rest) = .terminator (trim rest) := by
  have hline : trim (')' :: rest) = ')' :: trimRight rest := trim_cons (by decide) rest
  rw [← trim_trimRight, ofText, hline]
  rfl

theorem ofLine_eq_terminator {line options : Text} : ofLine line = .terminator options ↔
    ∃ rest, dropTrailing ',' (trim line) = ')' :: rest ∧ options = trim rest := by
  rw [ofLine]
  generalize hbare : dropTrailing ',' (trim line) = bare
  constructor
  · intro hread
    have hreads := reads_ofText bare
    rw [hread] at hreads
    cases hreads with
    | terminator hline =>
        rename_i behind
        cases bare with
        | nil => cases hline
        | cons c rest =>
            -- no blank is in front of the line
            have hhead : (trim line).head? = some c := by
              obtain ⟨pad, hpad⟩ := hbare ▸ dropTrailing_isPrefix ',' (trim line)
              rw [← hpad]
              rfl
            rw [trim_cons (head?_trim c hhead)] at hline
            obtain ⟨rfl, rfl⟩ := List.cons.inj hline
            exact ⟨rest, rfl, trim_trimRight rest⟩
  · rintro ⟨rest, rfl, rfl⟩
    exact ofText_closing rest

/-- What is put behind a closing parenthesis, or nothing for another line. -/
def options : TableLine → Text
  | terminator text => text
  | _ => []

end TableLine

/-- Nothing is taken out in front of a closing parenthesis. -/
theorem withoutCounter_closing (rest : Text) :
    withoutCounter (')' :: rest) = ')' :: withoutCounter rest := by
  have hnone : counterSetting? none (')' :: rest) = none := by
    have hstop : EndsSetting ')' := ⟨by decide +kernel, by decide +kernel⟩
    have hword : atWord? none (')' :: rest) = some (')' :: rest) := rfl
    rw [counterSetting?_eq, hword, Option.bind_some, behindSetting?_cons hstop, Option.map_none]
  rw [withoutCounter_eq, withoutCounterFrom_of_none hnone,
    withoutCounterFrom_congr (show startsWord (some ')') = startsWord none by decide +kernel),
    withoutCounter_eq]

/-- The closing parenthesis stays in front of what is left of the options. -/
theorem dropTrailing_withoutCounter {closing rest : Text}
    (h : dropTrailing ',' (trim closing) = ')' :: rest) :
    dropTrailing ',' (trim (withoutCounter closing))
      = ')' :: dropTrailing ',' (withoutCounter rest) := by
  obtain ⟨pad, hpad, hclosing⟩ := exists_dropTrailing ',' (trim closing)
  rw [h] at hclosing
  have hcommas : withoutCounter (trim closing) = ')' :: withoutCounter rest ++ pad := by
    rw [hclosing, withoutCounter_append, withoutCounter_closing]
    · exact fun c hc => hpad c hc ▸ endsSetting_comma
    · refine .inl fun c hc => ?_
      rw [hpad c (List.mem_of_mem_head? hc)]
      decide
  have htrim : trim (withoutCounter closing) = ')' :: withoutCounter rest ++ pad := by
    rw [← trim_withoutCounter_trim, hcommas]
    refine trim_eq_self (by rintro c ⟨⟩; decide) ?_
    rw [← hcommas]
    exact getLast?_withoutCounter getLast?_trim
  rw [htrim, dropTrailing_append hpad, dropTrailing_cons (by decide)]

namespace Table

/-- The option lines of the lines from the closing parenthesis on. -/
def optionLines : List Text → List Text
  | [] => []
  | closing :: rest => (TableLine.ofLine closing).options :: rest.map trim

/-- Lines on which the row counter stands apart. No comma is left at the end of the line that closes
the body; and where a line begins with a counter, one space or nothing follows, unless only counters
stand in front of it. -/
structure CountersApart (closings : List Text) : Prop where
  comma : ∀ closing ∈ closings.head?,
    (withoutCounter (dropTrailing ',' (trim closing))).getLast? ≠ some ','
  space : ∀ part ∈ ((optionParts (optionLines closings)).dropWhile fun part =>
      (withoutCounter part).isEmpty).tail, (counterSetting? none part).isSome = true →
    withoutCounter part = spaced (trim (withoutCounter part))

instance (closings : List Text) : Decidable (CountersApart closings) :=
  decidable_of_iff ((∀ closing ∈ closings.head?,
      (withoutCounter (dropTrailing ',' (trim closing))).getLast? ≠ some ',') ∧
    ∀ part ∈ ((optionParts (optionLines closings)).dropWhile fun part =>
      (withoutCounter part).isEmpty).tail, (counterSetting? none part).isSome = true →
        withoutCounter part = spaced (trim (withoutCounter part)))
    ⟨fun ⟨hcomma, hspace⟩ => ⟨hcomma, hspace⟩, fun h => ⟨h.comma, h.space⟩⟩

section

variable {closing options : Text} {rest : List Text}
  (hclosing : dropTrailing ',' (trim closing) = ')' :: options)

include hclosing

theorem optionLines_eq : optionLines (closing :: rest) = trim options :: rest.map trim := by
  rw [optionLines, TableLine.ofLine, hclosing, TableLine.ofText_closing]
  rfl

/-- What is left of the line that closes the body is read without a comma at its end. -/
theorem optionLines_map_withoutCounter : optionLines ((closing :: rest).map withoutCounter) =
    trim (dropTrailing ',' (withoutCounter options)) ::
      rest.map fun line => trim (withoutCounter line) := by
  rw [List.map_cons, optionLines_eq (dropTrailing_withoutCounter hclosing), List.map_map]
  rfl

theorem map_withoutCounter_optionLines :
    (optionLines (closing :: rest)).map (fun line => trim (withoutCounter line)) =
      trim (withoutCounter options) :: rest.map fun line => trim (withoutCounter line) := by
  rw [optionLines_eq hclosing, List.map_cons, trim_withoutCounter_trim, List.map_map]
  refine congrArg _ (List.map_congr_left fun line _ => ?_)
  exact trim_withoutCounter_trim line

/-- The lines from the closing parenthesis on are option lines if they end with a semicolon. -/
theorem areClosed_optionLines (h : EndWithSemicolon (closing :: rest)) :
    AreClosed (optionLines (closing :: rest)) := by
  rw [optionLines_eq hclosing]
  constructor
  · intro line hline
    rcases List.mem_cons.mp hline with rfl | hline
    · exact trim_trim options
    · obtain ⟨raw, -, rfl⟩ := List.mem_map.mp hline
      exact trim_trim raw
  · have hends : EndWithSemicolon (options :: rest) := by
      obtain ⟨front, last, hlines, hfront, hlast⟩ := h
      have hinside : options ⊆ closing := by
        intro c hc
        have hdrop : c ∈ dropTrailing ',' (trim closing) := by
          rw [hclosing]
          exact List.mem_cons_of_mem _ hc
        exact (trim_isInfix _).subset ((dropTrailing_isPrefix _ _).subset hdrop)
      cases front with
      | nil =>
          -- the line that closes the body is the last one
          obtain ⟨rfl, rfl⟩ := List.cons.inj hlines
          rw [trim_append_semicolon, dropTrailing_eq_self (by simp)] at hclosing
          cases htrim : trimLeft last with
          | nil => simp [htrim] at hclosing
          | cons c text =>
              rw [htrim] at hclosing
              obtain ⟨rfl, rfl⟩ := List.cons.inj hclosing
              refine ⟨[], text, rfl, by simp, fun hmem => hlast ?_⟩
              have hsuffix : ')' :: text <:+ last := htrim ▸ List.dropWhile_suffix isBlank
              exact hsuffix.subset (List.mem_cons_of_mem _ hmem)
      | cons first front =>
          obtain ⟨rfl, rfl⟩ := List.cons.inj hlines
          obtain ⟨hfirst, hfront⟩ := List.forall_mem_cons.mp hfront
          exact ⟨options :: front, last, rfl, List.forall_mem_cons.mpr
            ⟨fun hmem => hfirst (hinside hmem), hfront⟩, hlast⟩
    exact hends.trim

theorem areClosed_withoutCounter (h : EndWithSemicolon (closing :: rest)) :
    AreClosed (optionLines ((closing :: rest).map withoutCounter)) :=
  areClosed_optionLines (dropTrailing_withoutCounter hclosing) h.withoutCounter

/-- Without the counter in each line the options are what they are without it, just if the counters
stand apart. -/
theorem optionsText_optionLines_iff (hends : EndWithSemicolon (closing :: rest)) :
    optionsText (optionLines ((closing :: rest).map withoutCounter)) =
        trim (withoutCounter (optionsText (optionLines (closing :: rest)))) ↔
      CountersApart (closing :: rest) := by
  have h := areClosed_optionLines hclosing hends
  have hbehind : (withoutCounter (dropTrailing ',' (trim closing))).getLast? = some ',' ↔
      (withoutCounter options).getLast? = some ',' := by
    rw [hclosing, withoutCounter_closing]
    cases withoutCounter options with
    | nil => simp
    | cons c text => rw [List.getLast?_cons_cons]
  by_cases hcomma : (withoutCounter options).getLast? = some ','
  · refine iff_of_false ?_ fun hapart => hapart.comma closing rfl (hbehind.mpr hcomma)
    intro heq
    -- the comma is to be seen in one of them only
    have hvisible := congrArg visible heq
    rw [visible_trim, visible_withoutCounter h] at hvisible
    have hlines := visible_optionsText (areClosed_withoutCounter hclosing hends)
    rw [hvisible, visible_optionsText h.withoutCounter, map_withoutCounter_optionLines hclosing,
      optionLines_map_withoutCounter hclosing, List.flatMap_cons, List.flatMap_cons, visible_trim,
      visible_trim] at hlines
    obtain ⟨pad, hpad, hleft⟩ := exists_dropTrailing ',' (withoutCounter options)
    have hnone : pad = [] := by
      have hsame := List.append_cancel_right hlines
      conv_lhs at hsame => rw [hleft, visible_append]
      have hgone : visible pad = [] := by simpa using hsame
      have hkept : visible pad = pad := List.filter_eq_self.mpr fun c hc => by
        rw [hpad c hc]
        decide
      rw [← hkept, hgone]
    rw [hnone, List.append_nil] at hleft
    exact getLast?_dropTrailing ',' (withoutCounter options) (hleft ▸ hcomma)
  · have hsame : optionLines ((closing :: rest).map withoutCounter) =
        (optionLines (closing :: rest)).map fun line => trim (withoutCounter line) := by
      rw [optionLines_map_withoutCounter hclosing, map_withoutCounter_optionLines hclosing,
        dropTrailing_eq_self hcomma]
    rw [hsame, optionsText_withoutCounter_iff h]
    refine ⟨fun hspace => ⟨?_, hspace⟩, fun hapart => hapart.space⟩
    rintro _ ⟨⟩
    exact fun hlast => hcomma (hbehind.mp hlast)

end

end Table

end SchemaMigration
