import Mathlib.Data.List.Basic
import Mathlib.Data.List.DropRight
import Mathlib.Data.List.TakeWhile
import SchemaMigration.Text.Blank

/-!
# Pieces of a text

A text is parted at separators into lines, words and the like. All of that follows from one
equation: the pieces of a text with a separator in it are those in front and those behind.

## Main Definitions

* `splitWhere_append_cons` - the pieces in front of a separator and those behind it
* `trim_trim`, `trim_trimRight`, `trimRight_cons` - how blanks at the ends go
* `map_trimRight_lines_append` - spaces at the end of a text do not matter for trimmed lines
* `lines_unlines` - the lines of joined lines
* `exists_dropTrailing` - a character that is dropped at the end of a text
-/

namespace SchemaMigration.Text

/-! ## Pieces -/

section

variable {separates : Char → Bool} {c : Char}

theorem splitWhere_ne_nil (separates : Char → Bool) (text : Text) :
    splitWhere separates text ≠ [] := by
  cases text with
  | nil => simp [splitWhere]
  | cons c text =>
      rw [splitWhere]
      split
      · simp
      · split <;> simp

theorem splitWhere_cons_of_pos (hc : separates c = true) (text : Text) :
    splitWhere separates (c :: text) = [] :: splitWhere separates text := by
  rw [splitWhere, if_pos hc]

/-- A character that does not separate belongs to the first piece. -/
theorem splitWhere_cons_of_neg (hc : separates c = false) (text : Text) :
    splitWhere separates (c :: text) = (splitWhere separates text).modifyHead (c :: ·) := by
  obtain ⟨piece, pieces, hpieces⟩ :=
    List.exists_cons_of_ne_nil (splitWhere_ne_nil separates text)
  rw [splitWhere, if_neg (by simp [hc]), hpieces]
  rfl

/-- The pieces of a text with a separator in it. -/
theorem splitWhere_append_cons (hc : separates c = true) (front rest : Text) :
    splitWhere separates (front ++ c :: rest)
      = splitWhere separates front ++ splitWhere separates rest := by
  induction front with
  | nil => exact splitWhere_cons_of_pos hc rest
  | cons d front ih =>
      by_cases hd : separates d = true
      · rw [List.cons_append, splitWhere_cons_of_pos hd, ih, splitWhere_cons_of_pos hd]
        rfl
      · obtain ⟨piece, pieces, hpieces⟩ :=
          List.exists_cons_of_ne_nil (splitWhere_ne_nil separates front)
        have hd' : separates d = false := by simpa using hd
        rw [List.cons_append, splitWhere_cons_of_neg hd', ih, splitWhere_cons_of_neg hd', hpieces]
        rfl

/-- A text without a separator is one piece. -/
theorem splitWhere_eq_singleton {text : Text} (h : ∀ c ∈ text, separates c = false) :
    splitWhere separates text = [text] := by
  induction text with
  | nil => rfl
  | cons c text ih =>
      rw [splitWhere_cons_of_neg (h c (by simp)), ih fun d hd => h d (List.mem_cons_of_mem _ hd)]
      rfl

/-- No piece has a separator. -/
theorem separates_eq_false_of_mem {text piece : Text} (h : piece ∈ splitWhere separates text) :
    ∀ c ∈ piece, separates c = false := by
  induction text generalizing piece with
  | nil =>
      obtain rfl : piece = [] := by simpa [splitWhere] using h
      simp
  | cons d text ih =>
      by_cases hd : separates d = true
      · rw [splitWhere_cons_of_pos hd] at h
        rcases List.mem_cons.mp h with rfl | h
        · simp
        · exact ih h
      · have hd' : separates d = false := by simpa using hd
        obtain ⟨first, pieces, hpieces⟩ :=
          List.exists_cons_of_ne_nil (splitWhere_ne_nil separates text)
        rw [splitWhere_cons_of_neg hd', hpieces, List.modifyHead_cons] at h
        rcases List.mem_cons.mp h with rfl | h
        · have hfirst := ih (hpieces ▸ List.mem_cons_self)
          exact List.forall_mem_cons.mpr ⟨hd', hfirst⟩
        · exact ih (hpieces ▸ List.mem_cons_of_mem _ h)

/-- A text begins with its first piece, and a separator follows if there are more. -/
theorem exists_piece_append (separates : Char → Bool) (text : Text) :
    ∃ piece pieces, splitWhere separates text = piece :: pieces ∧
      (text = piece ∨ ∃ c rest, separates c = true ∧ text = piece ++ c :: rest) := by
  induction text with
  | nil => exact ⟨[], [], rfl, .inl rfl⟩
  | cons d text ih =>
      by_cases hd : separates d = true
      · exact ⟨[], _, splitWhere_cons_of_pos hd text, .inr ⟨d, text, hd, rfl⟩⟩
      · obtain ⟨piece, pieces, hpieces, htext⟩ := ih
        refine ⟨d :: piece, pieces, ?_, ?_⟩
        · rw [splitWhere_cons_of_neg (by simpa using hd), hpieces]
          rfl
        · rcases htext with rfl | ⟨c, rest, hc, rfl⟩
          · exact .inl rfl
          · exact .inr ⟨c, rest, hc, rfl⟩

end

theorem newline_notMem_of_mem_lines {text line : Text} (h : line ∈ lines text) : '\n' ∉ line :=
  fun hmem => absurd (separates_eq_false_of_mem h _ hmem) (by decide)

theorem lines_append_cons (front rest : Text) :
    lines (front ++ '\n' :: rest) = lines front ++ lines rest :=
  splitWhere_append_cons rfl front rest

/-- A text without a newline is one line. -/
theorem lines_eq_singleton {line : Text} (h : '\n' ∉ line) : lines line = [line] :=
  splitWhere_eq_singleton fun c hc => by simpa using fun heq : c = '\n' => h (heq ▸ hc)

/-- The first line is what stands in front of the first newline. -/
theorem lines_append_newline_cons {line : Text} (h : '\n' ∉ line) (rest : Text) :
    lines (line ++ '\n' :: rest) = line :: lines rest := by
  rw [lines_append_cons, lines_eq_singleton h]
  rfl

theorem unlines_cons_head (c : Char) (first : Text) (rest : List Text) :
    unlines ((c :: first) :: rest) = c :: unlines (first :: rest) := by
  cases rest <;> rfl

/-- A newline stands between a line and those below it. -/
theorem unlines_cons_of_ne_nil (line : Text) {rest : List Text} (h : rest ≠ []) :
    unlines (line :: rest) = line ++ '\n' :: unlines rest := by
  obtain ⟨next, rest, rfl⟩ := List.exists_cons_of_ne_nil h
  simp [unlines, join]

/-- A newline stands between two lists of lines. -/
theorem unlines_append {front rest : List Text} (hfront : front ≠ []) (hrest : rest ≠ []) :
    unlines (front ++ rest) = unlines front ++ '\n' :: unlines rest := by
  induction front with
  | nil => exact absurd rfl hfront
  | cons line front ih =>
      by_cases hmore : front = []
      · rw [hmore]
        exact unlines_cons_of_ne_nil line hrest
      · rw [List.cons_append, unlines_cons_of_ne_nil line (by simp [hmore]), ih hmore,
          unlines_cons_of_ne_nil line hmore, List.append_assoc, List.cons_append]

theorem suffix_unlines_concat (held : List Text) (last : Text) :
    last <:+ unlines (held ++ [last]) := by
  by_cases hheld : held = []
  · rw [hheld]
    exact List.suffix_rfl
  · rw [unlines_append hheld (by simp), List.append_cons]
    exact List.suffix_append _ _

/-- The lines of a text make up the text. -/
theorem unlines_lines (text : Text) : unlines (lines text) = text := by
  induction text with
  | nil => rfl
  | cons c text ih =>
      have hne : lines text ≠ [] := splitWhere_ne_nil _ text
      by_cases hc : c = '\n'
      · rw [lines, splitWhere_cons_of_pos (by simp [hc]), ← lines, unlines_cons_of_ne_nil [] hne,
          ih, hc]
        rfl
      · obtain ⟨line, rest, hlines⟩ := List.exists_cons_of_ne_nil hne
        rw [lines, splitWhere_cons_of_neg (by simpa using hc), ← lines, hlines,
          List.modifyHead_cons, unlines_cons_head, ← hlines, ih]

/-- Lines that are put one below the other are found again. -/
theorem lines_unlines {pieces : List Text} (hne : pieces ≠ [])
    (h : ∀ line ∈ pieces, '\n' ∉ line) : lines (unlines pieces) = pieces := by
  induction pieces with
  | nil => exact absurd rfl hne
  | cons line pieces ih =>
      obtain ⟨hline, hpieces⟩ := List.forall_mem_cons.mp h
      by_cases hrest : pieces = []
      · rw [hrest]
        exact lines_eq_singleton hline
      · rw [unlines_cons_of_ne_nil line hrest, lines_append_newline_cons hline, ih hrest hpieces]

/-- The last one of lines that are put one below the other may be parted. -/
theorem unlines_append_last (init : List Text) (front back : Text) :
    unlines (init ++ [front ++ back]) = unlines (init ++ [front]) ++ back := by
  by_cases hinit : init = []
  · rw [hinit]
    rfl
  · rw [unlines_append hinit (by simp), unlines_append hinit (by simp)]
    simp [unlines, join]

theorem subset_unlines {line : Text} {pieces : List Text} (h : line ∈ pieces) :
    line ⊆ unlines pieces := by
  induction pieces with
  | nil => cases h
  | cons first pieces ih =>
      by_cases hrest : pieces = []
      · rw [hrest, List.mem_singleton] at h
        rw [hrest, h]
        exact List.Subset.refl _
      · rw [unlines_cons_of_ne_nil first hrest]
        rcases List.mem_cons.mp h with rfl | h
        · exact List.subset_append_left _ _
        · exact fun c hc => List.mem_append_right _ (List.mem_cons_of_mem _ (ih h hc))

/-- What is put behind a text and opens no line stands behind its last line. -/
theorem lines_append_last {front pad last : Text} {init : List Text} (hpad : '\n' ∉ pad)
    (hlines : lines front = init ++ [last]) : lines (front ++ pad) = init ++ [last ++ pad] := by
  have hwhole : unlines (init ++ [last ++ pad]) = front ++ pad := by
    rw [unlines_append_last, ← hlines, unlines_lines]
  rw [← hwhole, lines_unlines (by simp)]
  intro line hline
  have hfront (line : Text) (hmem : line ∈ init ++ [last]) : '\n' ∉ line :=
    newline_notMem_of_mem_lines (hlines ▸ hmem)
  rcases List.mem_append.mp hline with hline | hline
  · exact hfront line (by simp [hline])
  · rw [List.mem_singleton.mp hline, List.mem_append, not_or]
    exact ⟨hfront last (by simp), hpad⟩

/-- A text that does not end with a newline ends as its last line does. -/
theorem lines_concat {c : Char} (hc : c ≠ '\n') (front : Text) :
    ∃ init last, lines (front ++ [c]) = init ++ [last ++ [c]] :=
  ⟨_, _, lines_append_last (by simpa using hc.symm)
    (List.dropLast_append_getLast (splitWhere_ne_nil _ front)).symm⟩

/-! ## Blanks at the ends -/

/-- Characters of one sort end where another one follows. -/
theorem takeWhile_append_of_ends {inside : Char → Bool} {front rest : Text}
    (hfront : ∀ c ∈ front, inside c = true) (hrest : ∀ c ∈ rest.head?, inside c = false) :
    (front ++ rest).takeWhile inside = front := by
  rw [List.takeWhile_append_of_pos hfront]
  cases rest with
  | nil => simp
  | cons c rest => simp [hrest c rfl]

/-- What is left behind characters of a sort begins with none of them. -/
theorem head?_dropWhile {inside : Char → Bool} {text : Text} :
    ∀ c ∈ (text.dropWhile inside).head?, inside c = false := by
  intro c hc
  have hhead := List.head?_dropWhile_not inside text
  rwa [Option.mem_def.mp hc] at hhead

theorem of_dropWhile_eq_cons {inside : Char → Bool} {text behind : Text} {c : Char}
    (h : text.dropWhile inside = c :: behind) : inside c = false := by
  have hhead : (text.dropWhile inside).head? = some c := by rw [h, List.head?_cons]
  exact head?_dropWhile c hhead

/-- A reader of all characters of a sort that stand in front, of which there must be one, parts the
text where another character follows. -/
theorem stretch_eq_some {inside : Char → Bool} {text found rest : Text} :
    (if (text.takeWhile inside).isEmpty then none
      else some (text.takeWhile inside, text.dropWhile inside)) = some (found, rest) ↔
    found ≠ [] ∧ (∀ c ∈ found, inside c = true) ∧ text = found ++ rest ∧
      ∀ c ∈ rest.head?, inside c = false := by
  constructor
  · intro h
    split at h
    · cases h
    · rename_i hne
      obtain ⟨rfl, rfl⟩ := Prod.mk.inj (Option.some.inj h)
      exact ⟨by simpa using hne, fun c hc => List.mem_takeWhile_imp hc,
        List.takeWhile_append_dropWhile.symm, head?_dropWhile⟩
  · rintro ⟨hne, hinside, rfl, hrest⟩
    have htake : (found ++ rest).takeWhile inside = found := takeWhile_append_of_ends hinside hrest
    have hdrop : (found ++ rest).dropWhile inside = rest := by
      have hwhole := List.takeWhile_append_dropWhile (p := inside) (l := found ++ rest)
      rw [htake] at hwhole
      exact List.append_cancel_left hwhole
    rw [htake, hdrop, if_neg (by simpa using hne)]

/-- A text without the blanks in front begins with none. -/
theorem head?_trimLeft {text : Text} : ∀ c ∈ (trimLeft text).head?, isBlank c = false :=
  head?_dropWhile

theorem isBlank_of_trimLeft_eq_cons {text behind : Text} {c : Char}
    (h : trimLeft text = c :: behind) : isBlank c = false :=
  of_dropWhile_eq_cons h

theorem trimRight_eq_self {text : Text} (hlast : ∀ c ∈ text.getLast?, isBlank c = false) :
    trimRight text = text := by
  refine List.rdropWhile_eq_self_iff.mpr fun hne => ?_
  simp [hlast (text.getLast hne) (List.getLast_mem_getLast? hne)]

/-- A text without blanks at its ends is trimmed already. -/
theorem trim_eq_self {text : Text} (hhead : ∀ c ∈ text.head?, isBlank c = false)
    (hlast : ∀ c ∈ text.getLast?, isBlank c = false) : trim text = text := by
  have hleft : trimLeft text = text := by
    cases text with
    | nil => rfl
    | cons c text => simp [trimLeft, hhead c (by simp)]
  rw [trim, hleft, trimRight_eq_self hlast]

/-- A character that is no blank stops the trimming. -/
theorem trim_cons {c : Char} (hc : isBlank c = false) (text : Text) :
    trim (c :: text) = c :: trimRight text := by
  have hleft : trimLeft (c :: text) = c :: text := by simp [trimLeft, hc]
  rw [trim, hleft, trimRight, trimRight, List.reverse_cons, List.dropWhile_append]
  split
  · rename_i hnil
    simp [List.isEmpty_iff.mp hnil, hc]
  · simp

@[simp] theorem trimRight_trimRight (text : Text) : trimRight (trimRight text) = trimRight text :=
  List.rdropWhile_idempotent isBlank text

/-- A text is what is left without the blanks at its end, and those. -/
theorem exists_trimRight (text : Text) :
    ∃ pad, (∀ c ∈ pad, isBlank c = true) ∧ text = trimRight text ++ pad := by
  refine ⟨text.rtakeWhile isBlank, ?_, (List.rdropWhile_append_rtakeWhile ..).symm⟩
  intro c hc
  exact List.mem_rtakeWhile_imp hc

/-- A text is what is trimmed off at its ends, and what remains. -/
theorem exists_trim (text : Text) : ∃ front back, text = front ++ trim text ++ back ∧
    (∀ c ∈ front, isBlank c = true) ∧ ∀ c ∈ back, isBlank c = true := by
  obtain ⟨back, hback, htext⟩ := exists_trimRight (trimLeft text)
  refine ⟨text.takeWhile isBlank, back, ?_, fun c hc => List.mem_takeWhile_imp hc, hback⟩
  rw [List.append_assoc, trim, ← htext, trimLeft, List.takeWhile_append_dropWhile]

theorem trim_isInfix (text : Text) : trim text <:+: text := by
  obtain ⟨front, back, htext, -⟩ := exists_trim text
  exact ⟨front, back, htext.symm⟩

/-- Blanks at the end go. -/
theorem trimRight_append_of_blank (front : Text) {pad : Text}
    (hpad : ∀ c ∈ pad, isBlank c = true) : trimRight (front ++ pad) = trimRight front := by
  rw [trimRight, List.reverse_append, List.dropWhile_append_of_pos]
  · rfl
  · intro c hc
    exact hpad c (List.mem_reverse.mp hc)

/-- Blanks at the end of what follows a character go as they would go alone. -/
theorem trimRight_cons_trimRight (c : Char) (text : Text) :
    trimRight (c :: trimRight text) = trimRight (c :: text) := by
  obtain ⟨pad, hpad, htext⟩ := exists_trimRight text
  conv_rhs => rw [htext, ← List.cons_append, trimRight_append_of_blank _ hpad]

/-- A character in front of something that stays stays too. -/
theorem trimRight_cons {text : Text} (h : trimRight text ≠ []) (c : Char) :
    trimRight (c :: text) = c :: trimRight text := by
  have hlast := List.rdropWhile_last_not isBlank text h
  rw [← trimRight_cons_trimRight]
  refine List.rdropWhile_eq_self_iff.mpr fun _ => ?_
  rwa [List.getLast_cons h]

/-- A text in front of something that stays stays too. -/
theorem trimRight_append {text : Text} (h : trimRight text ≠ []) (front : Text) :
    trimRight (front ++ text) = front ++ trimRight text := by
  induction front with
  | nil => rfl
  | cons c front ih =>
      have hne : trimRight (front ++ text) ≠ [] := by
        rw [ih]
        exact List.append_ne_nil_of_right_ne_nil front h
      rw [List.cons_append, trimRight_cons hne, ih, List.cons_append]

/-- What is left of a text is the end of what is left of it with blanks in front. -/
theorem trim_suffix (text : Text) : trim text <:+ trimRight text := by
  by_cases h : trimRight (trimLeft text) = []
  · rw [trim, h]
    exact List.nil_suffix
  · refine ⟨text.takeWhile isBlank, ?_⟩
    rw [trim, ← trimRight_append h, trimLeft, List.takeWhile_append_dropWhile]

theorem trim_trimRight (text : Text) : trim (trimRight text) = trim text := by
  obtain ⟨pad, hpad, htext⟩ := exists_trimRight text
  conv_rhs => rw [htext]
  rw [trim, trim, trimLeft, trimLeft, List.dropWhile_append]
  split
  · rename_i hnil
    have hgone : pad.dropWhile isBlank = [] := List.dropWhile_eq_nil_iff.mpr hpad
    rw [hgone, List.isEmpty_iff.mp hnil]
  · rw [trimRight_append_of_blank _ hpad]

/-- A trimmed text is trimmed already. -/
theorem trim_trim (text : Text) : trim (trim text) = trim text := by
  have hleft : trimLeft (trimLeft text) = trimLeft text := List.dropWhile_idempotent ..
  calc trim (trim text) = trim (trimLeft text) := trim_trimRight _
    _ = trim text := by rw [trim, trim, hleft]

/-- No blank is in front of a trimmed text. -/
theorem trimLeft_trim (text : Text) : trimLeft (trim text) = trim text := by
  refine (List.dropWhile_suffix isBlank).eq_of_length_le ?_
  have hshorter := (List.rdropWhile_prefix isBlank (trimLeft (trim text))).length_le
  change (trim (trim text)).length ≤ _ at hshorter
  rwa [trim_trim] at hshorter

/-- Blanks at the end of a text, as long as they open no line, do not matter for its lines without
the blanks at their ends. -/
theorem map_trimRight_lines_append (front : Text) {pad : Text}
    (hpad : ∀ c ∈ pad, isBlank c = true ∧ c ≠ '\n') :
    (lines (front ++ pad)).map trimRight = (lines front).map trimRight := by
  induction front with
  | nil =>
      have hline : lines pad = [pad] := lines_eq_singleton fun hmem => (hpad _ hmem).2 rfl
      have hgone : trimRight ([] ++ pad) = trimRight [] :=
        trimRight_append_of_blank [] fun c hc => (hpad c hc).1
      rw [List.nil_append] at hgone ⊢
      rw [hline, List.map_singleton, hgone]
      rfl
  | cons c front ih =>
      by_cases hc : c = '\n'
      · rw [List.cons_append, lines, splitWhere_cons_of_pos (by simp [hc]), lines,
          splitWhere_cons_of_pos (by simp [hc]), List.map_cons, List.map_cons]
        exact congrArg _ ih
      · have hstep (text : Text) : (lines (c :: text)).map trimRight
            = ((lines text).map trimRight).modifyHead fun line => trimRight (c :: line) := by
          obtain ⟨line, rest, hlines⟩ :=
            List.exists_cons_of_ne_nil (splitWhere_ne_nil (· == '\n') text)
          rw [lines, lines, splitWhere_cons_of_neg (by simpa using hc), hlines]
          simp [trimRight_cons_trimRight]
        rw [List.cons_append, hstep, hstep, ih]

/-! ## Trailing characters -/

/-- A text is what is left without a character at its end, and as many of those. -/
theorem exists_dropTrailing (c : Char) (text : Text) :
    ∃ pad, (∀ d ∈ pad, d = c) ∧ text = dropTrailing c text ++ pad := by
  refine ⟨text.rtakeWhile (· == c), ?_, (List.rdropWhile_append_rtakeWhile ..).symm⟩
  intro d hd
  simpa using List.mem_rtakeWhile_imp hd

theorem dropTrailing_eq_self {c : Char} {text : Text} (h : text.getLast? ≠ some c) :
    dropTrailing c text = text := by
  refine List.rdropWhile_eq_self_iff.mpr fun hne => ?_
  rw [List.getLast?_eq_getLast_of_ne_nil hne] at h
  simpa using h

theorem getLast?_dropTrailing (c : Char) (text : Text) :
    (dropTrailing c text).getLast? ≠ some c := by
  intro hlast
  obtain ⟨hne, heq⟩ := List.mem_getLast?_eq_getLast hlast
  have hnot := List.rdropWhile_last_not (· == c) text hne
  rw [beq_iff_eq] at hnot
  exact hnot heq.symm

/-- More of the dropped character at the end makes no difference. -/
theorem dropTrailing_append {c : Char} {pad : Text} (hpad : ∀ d ∈ pad, d = c) (text : Text) :
    dropTrailing c (text ++ pad) = dropTrailing c text := by
  rw [dropTrailing, List.reverse_append, List.dropWhile_append_of_pos, ← dropTrailing]
  intro d hd
  simpa using hpad d (List.mem_reverse.mp hd)

theorem dropTrailing_cons {c d : Char} (h : d ≠ c) (text : Text) :
    dropTrailing c (d :: text) = d :: dropTrailing c text := by
  obtain ⟨pad, hpad, htext⟩ := exists_dropTrailing c text
  have hlast : (d :: dropTrailing c text).getLast? ≠ some c := by
    have hinside := getLast?_dropTrailing c text
    cases hleft : dropTrailing c text with
    | nil => simpa using h
    | cons e rest => rwa [List.getLast?_cons_cons, ← hleft]
  conv_lhs => rw [htext, ← List.cons_append, dropTrailing_append hpad, dropTrailing_eq_self hlast]

theorem dropTrailing_isPrefix (c : Char) (text : Text) : dropTrailing c text <+: text :=
  List.rdropWhile_prefix (· == c) text

/-! ## Words -/

@[simp] theorem words_nil : words [] = [] := rfl

/-- Blanks part words. -/
theorem words_append_cons {c : Char} (hc : isBlank c = true) (front rest : Text) :
    words (front ++ c :: rest) = words front ++ words rest := by
  rw [words, splitWhere_append_cons hc, List.filter_append]
  rfl

theorem words_cons_of_blank {c : Char} (hc : isBlank c = true) (text : Text) :
    words (c :: text) = words text :=
  words_append_cons hc [] text

/-- Blanks in front belong to no word. -/
theorem words_blank_append {pad : Text} (hpad : ∀ c ∈ pad, isBlank c = true) (text : Text) :
    words (pad ++ text) = words text := by
  induction pad with
  | nil => rfl
  | cons c pad ih =>
      rw [List.cons_append, words_cons_of_blank (hpad c (by simp)),
        ih fun d hd => hpad d (List.mem_cons_of_mem _ hd)]

/-- Neither do blanks at the end. -/
theorem words_append_blank (front : Text) {pad : Text} (hpad : ∀ c ∈ pad, isBlank c = true) :
    words (front ++ pad) = words front := by
  cases pad with
  | nil => rw [List.append_nil]
  | cons c pad =>
      have hrest := words_blank_append (fun d hd => hpad d (List.mem_cons_of_mem _ hd)) []
      rw [List.append_nil, words_nil] at hrest
      rw [words_append_cons (hpad c (by simp)), hrest, List.append_nil]

@[simp] theorem words_trimLeft (text : Text) : words (trimLeft text) = words text := by
  conv_rhs => rw [← List.takeWhile_append_dropWhile (p := isBlank) (l := text)]
  exact (words_blank_append (fun c hc => List.mem_takeWhile_imp hc) _).symm

@[simp] theorem words_trimRight (text : Text) : words (trimRight text) = words text := by
  obtain ⟨pad, hpad, htext⟩ := exists_trimRight text
  conv_rhs => rw [htext]
  exact (words_append_blank _ hpad).symm

@[simp] theorem words_trim (text : Text) : words (trim text) = words text := by
  rw [trim, words_trimRight, words_trimLeft]

/-- The words of lines are those of one line after the other. -/
theorem words_unlines (pieces : List Text) : words (unlines pieces) = pieces.flatMap words := by
  induction pieces with
  | nil => rfl
  | cons line pieces ih =>
      cases pieces with
      | nil => simp [unlines, join]
      | cons next pieces =>
          rw [unlines_cons_of_ne_nil line (by simp), words_append_cons (by decide), ih]
          rfl

/-- Without blanks a text is one word. -/
theorem words_eq_singleton {word : Text} (hne : word ≠ []) (hword : ∀ c ∈ word, isBlank c = false) :
    words word = [word] := by
  rw [words, splitWhere_eq_singleton hword]
  simp [hne]

/-- A word ends at a blank or at the end of the text. -/
theorem words_append {word rest : Text} (hne : word ≠ []) (hword : ∀ c ∈ word, isBlank c = false)
    (hrest : ∀ c ∈ rest.head?, isBlank c = true) : words (word ++ rest) = word :: words rest := by
  have hsingle := words_eq_singleton hne hword
  cases rest with
  | nil => rw [List.append_nil, hsingle, words_nil]
  | cons c rest =>
      have hc := hrest c rfl
      rw [words_append_cons hc, words_cons_of_blank hc, hsingle]
      rfl

/-- A text without blanks in front begins with its first word. -/
theorem exists_word_append (text : Text) : trimLeft text = [] ∧ words text = [] ∨
    ∃ word rest, trimLeft text = word ++ rest ∧ (∀ c ∈ word, isBlank c = false) ∧
      (∀ c ∈ rest.head?, isBlank c = true) ∧ words text = word :: words rest := by
  cases htrim : trimLeft text with
  | nil =>
      refine .inl ⟨rfl, ?_⟩
      rw [← words_trimLeft, htrim, words_nil]
  | cons c behind =>
      have hc : isBlank c = false := isBlank_of_trimLeft_eq_cons htrim
      have hsplit := List.takeWhile_append_dropWhile (p := (! isBlank ·)) (l := c :: behind)
      have hword : ∀ d ∈ (c :: behind).takeWhile (! isBlank ·), isBlank d = false := by
        intro d hd
        simpa using List.mem_takeWhile_imp hd
      have hrest : ∀ d ∈ ((c :: behind).dropWhile (! isBlank ·)).head?, isBlank d = true := by
        intro d hd
        simpa using head?_dropWhile d hd
      refine .inr ⟨_, _, hsplit.symm, hword, hrest, ?_⟩
      rw [← words_append (by simp [hc]) hword hrest, hsplit, ← htrim, words_trimLeft]

end SchemaMigration.Text
