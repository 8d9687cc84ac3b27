import SchemaMigration.Proofs.Text.Spacing

/-!
# The ends of lines

A text without the blanks at the ends of its lines is laid out as before: the newline behind them is
a blank too, so the text has the same words with single spaces.

## Main Definitions

* `trimLines` - a text without the blanks at the ends of its lines
* `trimLines_append` - what is put in front of its first line stays as it is
* `head?_trimLines`, `getLast?_trimLines` - the two ends of a trimmed text stay
* `singleSpaced_trimLines` - the spacing stays
-/

namespace SchemaMigration.Text

/-- A text without the blanks at the ends of its lines. -/
def trimLines (text : Text) : Text := unlines ((lines text).map trimRight)

/-- What opens no line stands in front of the first line. -/
theorem lines_append_of_notMem {front : Text} (h : '\n' ∉ front) (rest : Text) :
    lines (front ++ rest) = (lines rest).modifyHead (front ++ ·) :=
  splitWhere_append_of_neg (fun c hc => by simpa using fun heq : c = '\n' => h (heq ▸ hc)) rest

/-- The first line begins as the text does. -/
theorem exists_lines_cons {c : Char} (hc : isBlank c = false) (text : Text) :
    ∃ first rest, lines (c :: text) = (c :: first) :: rest := by
  have hnewline : '\n' ∉ [c] := by
    rw [List.mem_singleton]
    rintro rfl
    cases hc
  obtain ⟨first, rest, hlines⟩ := List.exists_cons_of_ne_nil (splitWhere_ne_nil (· == '\n') text)
  exact ⟨first, rest, (lines_append_of_notMem hnewline text).trans (by rw [lines, hlines]; rfl)⟩

theorem unlines_append_head (front first : Text) (rest : List Text) :
    unlines ((front ++ first) :: rest) = front ++ unlines (first :: rest) := by
  cases rest <;> simp [unlines, join]

/-- A line that begins with something else than a blank is trimmed at its end only. -/
theorem trimRight_cons_of_neg {c : Char} (hc : isBlank c = false) (text : Text) :
    trimRight (c :: text) = c :: trimRight text := by
  rw [← trim_cons hc, trim, trimLeft, List.dropWhile_cons, if_neg (by simp [hc])]

theorem trimLines_append {front : Text} (h : '\n' ∉ front) {c : Char} (hc : isBlank c = false)
    (text : Text) : trimLines (front ++ c :: text) = front ++ trimLines (c :: text) := by
  obtain ⟨first, rest, hlines⟩ := exists_lines_cons hc text
  have hfirst : trimRight (c :: first) ≠ [] := by simp [trimRight_cons_of_neg hc]
  rw [trimLines, trimLines, lines_append_of_notMem h, hlines, List.modifyHead_cons, List.map_cons,
    List.map_cons, trimRight_append hfirst, unlines_append_head]

theorem head?_trimLines {text : Text} (h : ∀ c ∈ text.head?, isBlank c = false) :
    (trimLines text).head? = text.head? := by
  cases text with
  | nil => rfl
  | cons c text =>
      obtain ⟨first, rest, hlines⟩ := exists_lines_cons (h c rfl) text
      rw [trimLines, hlines, List.map_cons, trimRight_cons_of_neg (h c rfl), unlines_cons_head]
      rfl

theorem getLast?_trimLines {text : Text} (h : ∀ c ∈ text.getLast?, isBlank c = false) :
    (trimLines text).getLast? = text.getLast? := by
  rcases List.eq_nil_or_concat text with rfl | ⟨front, c, rfl⟩
  · rfl
  · rw [List.concat_eq_append] at h ⊢
    have hc : isBlank c = false := h c (by simp)
    have hnewline : c ≠ '\n' := by
      rintro rfl
      cases hc
    obtain ⟨init, last, hlines⟩ := lines_concat hnewline front
    have hlast : trimRight (last ++ [c]) = last ++ [c] := trimRight_eq_self (by simpa using hc)
    rw [trimLines, hlines, List.map_append, List.map_singleton, hlast, unlines_append_last,
      List.getLast?_concat, List.getLast?_concat]

/-- A trimmed text is trimmed without the blanks at the ends of its lines too. -/
theorem trim_trimLines {text : Text} (h : trim text = text) :
    trim (trimLines text) = trimLines text := by
  refine trim_eq_self ?_ ?_
  · rw [head?_trimLines (h ▸ head?_trim), ← h]
    exact head?_trim
  · rw [getLast?_trimLines (h ▸ getLast?_trim), ← h]
    exact getLast?_trim

/-- The blanks around a newline are one space. -/
theorem singleSpaced_append_newline (line rest : Text) : singleSpaced (line ++ '\n' :: rest) =
    singleSpaced (trimRight line) ++ ' ' :: trimLeft (singleSpaced rest) := by
  obtain ⟨pad, hpad, hline⟩ := exists_trimRight line
  have htext : line ++ '\n' :: rest =
      trimRight line ++ (pad ++ '\n' :: rest.takeWhile isBlank ++ trimLeft rest) := by
    conv_lhs => rw [hline, ← List.takeWhile_append_dropWhile (p := isBlank) (l := rest)]
    simp [trimLeft]
  have hblank : ∀ c ∈ pad ++ '\n' :: rest.takeWhile isBlank, isBlank c = true := by
    intro c hc
    rcases List.mem_append.mp hc with hc | hc
    · exact hpad c hc
    · rcases List.mem_cons.mp hc with rfl | hc
      · rfl
      · exact List.mem_takeWhile_imp hc
  rw [htext, singleSpaced_append (.inl getLast?_trimRight),
    singleSpaced_blank_append (by simp) hblank head?_trimLeft, trimLeft_singleSpaced]

/-- Blanks at the ends of lines do not matter for the spacing. -/
theorem singleSpaced_trimLines {text : Text} (h : ∀ c ∈ text.getLast?, isBlank c = false) :
    singleSpaced (trimLines text) = singleSpaced text := by
  have hpieces (pieces : List Text) (hlast : ∀ c ∈ (unlines pieces).getLast?, isBlank c = false) :
      singleSpaced (unlines (pieces.map trimRight)) = singleSpaced (unlines pieces) := by
    induction pieces with
    | nil => rfl
    | cons line pieces ih =>
        by_cases hrest : pieces = []
        · subst hrest
          have hline : trimRight line = line := trimRight_eq_self hlast
          simp [unlines, join, hline]
        · have hmap : pieces.map trimRight ≠ [] := by simpa using hrest
          rw [unlines_cons_of_ne_nil line hrest] at hlast ⊢
          rw [List.map_cons, unlines_cons_of_ne_nil _ hmap]
          have hmore := ih fun c hc => hlast c (by
            rw [List.getLast?_append_of_ne_nil _ (by simp), List.getLast?_cons,
              Option.mem_def.mp hc]
            rfl)
          rw [singleSpaced_append_newline, singleSpaced_append_newline, hmore,
            trimRight_trimRight]
  exact (hpieces (lines text) (by rwa [unlines_lines])).trans (by rw [unlines_lines])

end SchemaMigration.Text
