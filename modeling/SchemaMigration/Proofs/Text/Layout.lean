import SchemaMigration.Proofs.Text.Piece

/-!
# Layout

Texts are compared without their layout: blanks at the ends go, and every run of blanks becomes one
space. That is done to each part of a text for itself, as long as no run of blanks is parted.

## Main Definitions

* `singleSpaced` - a text with one space for each run of blanks
* `singleSpaced_append` - texts one behind the other
* `squash_eq` - a text without its layout is single-spaced and trimmed
* `words_squash`, `squash_squash` - a text without its layout has its words, and no layout
* `squash_append` - a text around something that neither begins nor ends with a blank
-/

namespace SchemaMigration.Text

/-- A text with one space for each run of blanks. -/
def singleSpaced : Text → Text
  | [] => []
  | c :: text =>
    if isBlank c then
      if text.head?.any isBlank then singleSpaced text else ' ' :: singleSpaced text
    else c :: singleSpaced text

@[simp] theorem singleSpaced_nil : singleSpaced [] = [] := rfl

theorem singleSpaced_cons_of_neg {c : Char} (hc : isBlank c = false) (text : Text) :
    singleSpaced (c :: text) = c :: singleSpaced text := by
  rw [singleSpaced, if_neg (by simp [hc])]

theorem singleSpaced_cons_of_pos {c : Char} (hc : isBlank c = true) (text : Text) :
    singleSpaced (c :: text)
      = if text.head?.any isBlank then singleSpaced text else ' ' :: singleSpaced text := by
  rw [singleSpaced, if_pos hc]

/-- Texts one behind the other are single-spaced each for itself, if no run of blanks is parted. -/
theorem singleSpaced_append {front rest : Text}
    (h : (∀ c ∈ front.getLast?, isBlank c = false) ∨ ∀ c ∈ rest.head?, isBlank c = false) :
    singleSpaced (front ++ rest) = singleSpaced front ++ singleSpaced rest := by
  induction front with
  | nil => rfl
  | cons c front ih =>
      have hbehind : singleSpaced (front ++ rest) = singleSpaced front ++ singleSpaced rest := by
        refine ih (h.imp_left fun hlast d hd => hlast d ?_)
        rw [List.getLast?_cons, Option.mem_def.mp hd]
        rfl
      rw [List.cons_append]
      cases hc : isBlank c with
      | false =>
          rw [singleSpaced_cons_of_neg hc, singleSpaced_cons_of_neg hc, hbehind, List.cons_append]
      | true =>
          rw [singleSpaced_cons_of_pos hc, singleSpaced_cons_of_pos hc, hbehind]
          cases front with
          | nil =>
              have hrest : ∀ d ∈ rest.head?, isBlank d = false := by
                rcases h with hlast | hrest
                · simp [hlast c rfl] at hc
                · exact hrest
              cases rest with
              | nil => rfl
              | cons d rest => simp [hrest d rfl]
          | cons d front =>
              have hhead : (d :: front ++ rest).head? = (d :: front).head? := rfl
              rw [hhead]
              split
              · rfl
              · rw [List.cons_append]

/-- Without blanks there is nothing to do. -/
theorem singleSpaced_eq_self {text : Text} (h : ∀ c ∈ text, isBlank c = false) :
    singleSpaced text = text := by
  induction text with
  | nil => rfl
  | cons c text ih =>
      rw [singleSpaced_cons_of_neg (h c (by simp)), ih fun d hd => h d (List.mem_cons_of_mem _ hd)]

/-- Blanks become one space in front of something else. -/
theorem singleSpaced_blank_append {pad rest : Text} (hne : pad ≠ [])
    (hpad : ∀ c ∈ pad, isBlank c = true) (hrest : ∀ c ∈ rest.head?, isBlank c = false) :
    singleSpaced (pad ++ rest) = ' ' :: singleSpaced rest := by
  have hspace : singleSpaced pad = [' '] := by
    induction pad with
    | nil => exact absurd rfl hne
    | cons c pad ih =>
        rw [singleSpaced_cons_of_pos (hpad c (by simp))]
        cases pad with
        | nil => rfl
        | cons d pad =>
            have hd : isBlank d = true := hpad d (by simp)
            rw [List.head?_cons, Option.any_some, if_pos hd]
            exact ih (by simp) fun e he => hpad e (List.mem_cons_of_mem _ he)
  rw [singleSpaced_append (.inr hrest), hspace]
  rfl

/-- No blank is in front of a trimmed text. -/
theorem head?_trim {text : Text} : ∀ c ∈ (trim text).head?, isBlank c = false := by
  rw [← trimLeft_trim]
  exact head?_trimLeft

/-- And none behind it. -/
theorem getLast?_trimRight {text : Text} : ∀ c ∈ (trimRight text).getLast?, isBlank c = false := by
  intro c hc
  obtain ⟨hne, rfl⟩ := List.mem_getLast?_eq_getLast hc
  exact Bool.eq_false_iff.mpr (List.rdropWhile_last_not isBlank text hne)

theorem getLast?_trim {text : Text} : ∀ c ∈ (trim text).getLast?, isBlank c = false :=
  getLast?_trimRight

/-- A text that ends with something else than a blank does not consist of blanks. -/
theorem trimLeft_ne_nil {text : Text} (hne : text ≠ [])
    (h : ∀ c ∈ text.getLast?, isBlank c = false) : trimLeft text ≠ [] := by
  rw [trimLeft, ne_eq, List.dropWhile_eq_nil_iff]
  intro hall
  have hblank := h _ (List.getLast_mem_getLast? hne)
  rw [hall _ (List.getLast_mem hne)] at hblank
  cases hblank

theorem isBlankText_eq (text : Text) : isBlankText text = (trim text).isEmpty := by
  rw [Bool.eq_iff_iff, List.isEmpty_iff, isBlankText, List.all_eq_true]
  constructor
  · intro hall
    rw [trim, trimLeft, List.dropWhile_eq_nil_iff.mpr hall]
    rfl
  · intro hnil
    obtain ⟨front, back, htext, hfront, hback⟩ := exists_trim text
    rw [htext, hnil, List.append_nil]
    exact fun c hc => (List.mem_append.mp hc).elim (hfront c) (hback c)

theorem trimLeft_append {front : Text} (h : trimLeft front ≠ []) (back : Text) :
    trimLeft (front ++ back) = trimLeft front ++ back := by
  rw [trimLeft] at h ⊢
  rw [List.dropWhile_append, if_neg (mt List.isEmpty_iff.mp h), trimLeft]

theorem getLast?_trimLeft {text : Text} (h : trimLeft text ≠ []) :
    (trimLeft text).getLast? = text.getLast? := by
  obtain ⟨front, hfront⟩ := List.dropWhile_suffix isBlank (l := text)
  rw [← trimLeft] at hfront
  conv_rhs => rw [← hfront, List.getLast?_append_of_ne_nil _ h]

/-- Without blanks behind a text there are only those in front of it. -/
theorem trim_eq_trimLeft {text : Text} (h : ∀ c ∈ text.getLast?, isBlank c = false) :
    trim text = trimLeft text := by
  by_cases hne : trimLeft text = []
  · rw [trim, hne]
    rfl
  · exact trimRight_eq_self (getLast?_trimLeft hne ▸ h)

theorem trim_blank_append {pad : Text} (hpad : ∀ c ∈ pad, isBlank c = true) (text : Text) :
    trim (pad ++ text) = trim text := by
  rw [trim, trimLeft, List.dropWhile_append_of_pos hpad, ← trimLeft, ← trim]

/-- Only blanks have no words. -/
theorem words_eq_nil_iff {text : Text} : words text = [] ↔ trim text = [] := by
  constructor
  · intro hnone
    rcases exists_word_append text with ⟨htrim, -⟩ | ⟨_, _, -, -, -, hsome⟩
    · rw [trim, htrim]
      rfl
    · rw [hsome] at hnone
      cases hnone
  · intro hblank
    rw [← words_trim, hblank, words_nil]

/-- The blanks in front of a text stay if only those behind it go. -/
theorem trimRight_eq_append_trim {text : Text} (h : trim text ≠ []) :
    ∃ gap back, text = gap ++ (trim text ++ back) ∧ (∀ c ∈ gap, isBlank c = true) ∧
      trimRight text = gap ++ trim text := by
  obtain ⟨gap, back, heq, hgap, hback⟩ := exists_trim text
  refine ⟨gap, back, by simpa using heq, hgap, ?_⟩
  have hself : trimRight (trim text) = trim text := by rw [trim, trimRight_trimRight]
  conv_lhs => rw [heq]
  rw [trimRight_append_of_blank _ hback, trimRight_append (by rwa [hself]), hself]

/-- Between a word and the next one there is one space. -/
theorem squash_eq_append {text word rest : Text} (hwords : words text = word :: words rest)
    (hmore : words rest ≠ []) : squash text = word ++ ' ' :: squash rest := by
  obtain ⟨next, more, hnext⟩ := List.exists_cons_of_ne_nil hmore
  rw [squash, hwords, squash, hnext]
  simp [join]

/-- A word and what follows it are single-spaced and trimmed. -/
theorem singleSpaced_trimRight_word_append {word rest : Text}
    (hword : ∀ c ∈ word, isBlank c = false) (hrest : ∀ c ∈ rest.head?, isBlank c = true) :
    singleSpaced (trimRight (word ++ rest)) =
      if trim rest = [] then word else word ++ ' ' :: singleSpaced (trim rest) := by
  have hlast : ∀ c ∈ word.getLast?, isBlank c = false :=
    fun c hc => hword c (List.mem_of_getLast? hc)
  split
  · rename_i hblank
    -- the word is the last one, and only blanks follow it
    obtain ⟨front, back, heq, hfront, hback⟩ := exists_trim rest
    have hall : ∀ c ∈ rest, isBlank c = true := by
      intro c hc
      rw [heq, hblank, List.append_nil, List.mem_append] at hc
      exact hc.elim (hfront c) (hback c)
    have hright : trimRight word = word := by
      have hself := trim_eq_self (fun c hc => hword c (List.mem_of_mem_head? hc)) hlast
      rw [← hself, trim, trimRight_trimRight]
    rw [trimRight_append_of_blank _ hall, hright, singleSpaced_eq_self hword]
  · rename_i hmore
    obtain ⟨gap, back, heq, hgap, hright⟩ := trimRight_eq_append_trim hmore
    -- the word has ended, so there is a gap
    have hgapNe : gap ≠ [] := by
      rintro rfl
      obtain ⟨c, more, hc⟩ := List.exists_cons_of_ne_nil hmore
      have hhead : rest.head? = some c := by
        rw [heq, hc]
        rfl
      have hnot := head?_trim c (by rw [hc]; rfl)
      rw [hrest c hhead] at hnot
      cases hnot
    have hsome : trimRight rest ≠ [] := by
      rw [hright]
      exact List.append_ne_nil_of_right_ne_nil _ hmore
    rw [trimRight_append hsome, hright, singleSpaced_append (.inl hlast),
      singleSpaced_eq_self hword, singleSpaced_blank_append hgapNe hgap head?_trim]

/-- A text without its layout is single-spaced, without the blanks at its ends. -/
theorem squash_eq (text : Text) : squash text = singleSpaced (trim text) := by
  induction hn : text.length using Nat.strong_induction_on generalizing text with
  | _ n ih =>
      rcases exists_word_append text with
        ⟨htrim, hwords⟩ | ⟨word, rest, htrim, hword, hrest, hwords⟩
      · rw [squash, hwords, trim, htrim]
        rfl
      · have hne : word ≠ [] := by
          have hmem : word ∈ words text := by simp [hwords]
          simpa using (List.mem_filter.mp hmem).2
        have hlength : rest.length < n := by
          have hshorter := (List.dropWhile_suffix isBlank (l := text)).length_le
          have hpositive := List.length_pos_of_ne_nil hne
          rw [← trimLeft, htrim, List.length_append] at hshorter
          omega
        rw [trim, htrim, singleSpaced_trimRight_word_append hword hrest]
        split
        · rename_i hblank
          rw [squash, hwords, words_eq_nil_iff.mpr hblank]
          rfl
        · rename_i hmore
          rw [squash_eq_append hwords (mt words_eq_nil_iff.mp hmore),
            ih rest.length hlength rest rfl]

/-- Words with one space between them are the words of a text. -/
theorem words_join {pieces : List Text}
    (h : ∀ piece ∈ pieces, piece ≠ [] ∧ ∀ c ∈ piece, isBlank c = false) :
    words (join [' '] pieces) = pieces := by
  induction pieces with
  | nil => rfl
  | cons piece pieces ih =>
      obtain ⟨⟨hne, hpiece⟩, hmore⟩ := List.forall_mem_cons.mp h
      cases pieces with
      | nil => exact words_eq_singleton hne hpiece
      | cons next pieces =>
          have hjoin : join [' '] (piece :: next :: pieces)
              = piece ++ ' ' :: join [' '] (next :: pieces) := by simp [join]
          rw [hjoin, words_append hne hpiece (fun c hc => by cases hc; rfl),
            words_cons_of_blank rfl, ih hmore]

/-- A text without its layout has the same words. -/
@[simp] theorem words_squash (text : Text) : words (squash text) = words text := by
  refine words_join fun word hword => ?_
  obtain ⟨hword, hne⟩ := List.mem_filter.mp hword
  exact ⟨by simpa using hne, separates_eq_false_of_mem hword⟩

/-- And no layout to lose. -/
@[simp] theorem squash_squash (text : Text) : squash (squash text) = squash text := by
  rw [squash, words_squash, squash]

/-- Around something that neither begins nor ends with a blank, a text loses its layout in front and
behind. -/
theorem squash_append {front middle behind : Text} (hne : middle ≠ [])
    (hhead : ∀ c ∈ middle.head?, isBlank c = false)
    (hlast : ∀ c ∈ middle.getLast?, isBlank c = false) :
    squash (front ++ (middle ++ behind)) = singleSpaced (trimLeft front) ++
      (singleSpaced middle ++ singleSpaced (trimRight behind)) := by
  have hmiddle (rest : Text) : ∀ c ∈ (middle ++ rest).head?, isBlank c = false := by
    rwa [List.head?_append_of_ne_nil _ hne]
  have hleft : trimLeft (front ++ (middle ++ behind)) = trimLeft front ++ (middle ++ behind) := by
    rw [trimLeft, List.dropWhile_append]
    split
    · rename_i hnil
      obtain ⟨c, inside, rfl⟩ := List.exists_cons_of_ne_nil hne
      simp [trimLeft, List.isEmpty_iff.mp hnil, hhead c rfl]
    · rfl
  have hself : trimRight (middle ++ trimRight behind) = middle ++ trimRight behind := by
    by_cases hnil : trimRight behind = []
    · have hmiddle : trimRight middle = middle := trimRight_eq_self hlast
      rw [hnil, List.append_nil, hmiddle]
    · rw [trimRight_append (by rwa [trimRight_trimRight]), trimRight_trimRight]
  have hright : trimRight (trimLeft front ++ (middle ++ behind))
      = trimLeft front ++ (middle ++ trimRight behind) := by
    obtain ⟨pad, hpad, heq⟩ := exists_trimRight behind
    have hwhole : trimLeft front ++ (middle ++ behind)
        = trimLeft front ++ (middle ++ trimRight behind) ++ pad := by
      conv_lhs => rw [heq]
      simp
    rw [hwhole, trimRight_append_of_blank _ hpad, trimRight_append (by simp [hself, hne]), hself]
  rw [squash_eq, trim, hleft, hright, singleSpaced_append (.inr (hmiddle _)),
    singleSpaced_append (.inl hlast)]

end SchemaMigration.Text
