import SchemaMigration.Proofs.Dump.BlockComment

/-!
# Spaces at the end of a line

A text and the same text with spaces at the end of one of its lines stay such a pair behind the
passes over block comments. For a comment opens and closes at the same marks in both, and what is
looked for in it is told from its blanks, not from how many there are.

## Main Definitions

* `PadsLine` - spaces in front of a newline
* `IsPadded` - spaces in front of a newline or at the end of the text
* `IgnoresPadding` - what is looked for in a comment does not depend on such spaces
* `IsPadded.openBlockComments` - a padded text is padded behind the passes
-/

namespace SchemaMigration.Dump

open Text

/-- The same text with spaces in front of a newline, or without any. -/
inductive PadsLine : Text → Text → Prop
  | refl (text : Text) : PadsLine text text
  | spaces {pad : Text} (hpad : IsSpaces pad) (text : Text) :
      PadsLine ('\n' :: text) (pad ++ '\n' :: text)
  | char {text padded : Text} (c : Char) (h : PadsLine text padded) :
      PadsLine (c :: text) (c :: padded)

/-- A text at which a line may end. -/
def OpensLine (text : Text) : Prop := text = [] ∨ text.head? = some '\n'

/-- The same text with spaces at the end of a line. -/
def IsPadded (text padded : Text) : Prop :=
  ∃ front pad behind, IsSpaces pad ∧ OpensLine behind ∧
    text = front ++ behind ∧ padded = front ++ (pad ++ behind)

theorem OpensLine.isFence {text : Text} (h : OpensLine text) : IsFence text := by
  rcases h with rfl | hhead
  · exact isFence_nil
  · intro c hc
    obtain rfl : '\n' = c := by simpa [hhead] using hc
    decide

theorem PadsLine.append_left {text padded : Text} (h : PadsLine text padded) (front : Text) :
    PadsLine (front ++ text) (front ++ padded) := by
  induction front with
  | nil => exact h
  | cons c front ih => exact .char c ih

theorem PadsLine.append_right {text padded : Text} (h : PadsLine text padded) (behind : Text) :
    PadsLine (text ++ behind) (padded ++ behind) := by
  induction h with
  | refl text => exact .refl _
  | spaces hpad text => simpa using PadsLine.spaces hpad (text ++ behind)
  | char c _ ih => exact .char c ih

namespace IsPadded

theorem refl (text : Text) : IsPadded text text :=
  ⟨text, [], [], by simp [IsSpaces], .inl rfl, by simp, by simp⟩

theorem append_left {text padded : Text} (h : IsPadded text padded) (front : Text) :
    IsPadded (front ++ text) (front ++ padded) := by
  obtain ⟨middle, pad, behind, hpad, hbehind, rfl, rfl⟩ := h
  exact ⟨front ++ middle, pad, behind, hpad, hbehind, by simp, by simp⟩

end IsPadded

theorem PadsLine.isPadded {text padded : Text} (h : PadsLine text padded) :
    IsPadded text padded := by
  induction h with
  | refl text => exact .refl text
  | @spaces pad hpad text => exact ⟨[], pad, '\n' :: text, hpad, .inr rfl, rfl, rfl⟩
  | char c _ ih => exact ih.append_left [c]

/-! ## What is looked for in a comment -/

/-- What is found does not depend on spaces in front of newlines. -/
def IgnoresPadding (find : Text → Option Text) : Prop :=
  ∀ text padded, PadsLine text padded → Option.Rel PadsLine (find text) (find padded)

theorem IgnoresPadding.bind {first second : Text → Option Text} (hfirst : IgnoresPadding first)
    (hsecond : IgnoresPadding second) : IgnoresPadding fun text => (first text).bind second := by
  intro text padded h
  have hmid := hfirst text padded h
  simp only
  generalize first text = found, first padded = found' at hmid
  cases hmid with
  | some h => exact hsecond _ _ h
  | none => exact .none

theorem ignoresPadding_some : IgnoresPadding some := fun _ _ h => .some h

/-- A class of characters that has all of these blanks or none of them passes over as much in
either text. -/
theorem PadsLine.dropWhile {inside : Char → Bool} (hspace : inside ' ' = inside '\n')
    (htab : inside '\t' = inside '\n') {text padded : Text} (h : PadsLine text padded) :
    PadsLine (text.dropWhile inside) (padded.dropWhile inside) := by
  induction h with
  | refl text => exact .refl _
  | @spaces pad hpad text =>
      have hall : ∀ c ∈ pad, inside c = inside '\n' := by
        intro c hc
        rcases hpad c hc with rfl | rfl
        · exact hspace
        · exact htab
      cases hnewline : inside '\n' with
      | true =>
          rw [List.dropWhile_append_of_pos fun c hc => (hall c hc).trans hnewline]
          exact .refl _
      | false =>
          have hstays : (pad ++ '\n' :: text).dropWhile inside = pad ++ '\n' :: text := by
            cases pad with
            | nil => simp [hnewline]
            | cons c pad => simp [hall c (by simp), hnewline]
          rw [hstays, List.dropWhile_cons_of_neg (by simp [hnewline])]
          exact .spaces hpad text
  | @char text padded c h ih =>
      by_cases hc : inside c = true
      · rw [List.dropWhile_cons_of_pos hc, List.dropWhile_cons_of_pos hc]
        exact ih
      · rw [List.dropWhile_cons_of_neg hc, List.dropWhile_cons_of_neg hc]
        exact .char c h

theorem ignoresPadding_dropWhile (inside : Char → Bool) (hspace : inside ' ' = inside '\n')
    (htab : inside '\t' = inside '\n') :
    IgnoresPadding fun text => some (text.dropWhile inside) :=
  fun _ _ h => .some (h.dropWhile hspace htab)

theorem rel_refl (found : Option Text) : Option.Rel PadsLine found found := by
  cases found with
  | none => exact .none
  | some text => exact .some (.refl text)

/-- What begins with a character that is no blank is found in both texts or in none. -/
theorem ignoresPadding_of_first {find next : Text → Option Text} (accepts : Char → Bool)
    (hblank : accepts ' ' = false ∧ accepts '\t' = false ∧ accepts '\n' = false)
    (hnext : IgnoresPadding next)
    (hfind : ∀ c text, find (c :: text) = if accepts c then next text else none) :
    IgnoresPadding find := by
  intro text padded h
  cases h with
  | refl text => exact rel_refl _
  | @spaces pad hpad text =>
      have hnone : find (pad ++ '\n' :: text) = none := by
        cases pad with
        | nil => simp [hfind, hblank.2.2]
        | cons c pad =>
            rw [List.cons_append, hfind]
            rcases hpad c (by simp) with rfl | rfl
            · simp [hblank.1]
            · simp [hblank.2.1]
      rw [hnone, hfind, hblank.2.2]
      exact .none
  | char c h =>
      rw [hfind, hfind]
      split
      · exact hnext _ _ h
      · exact .none

theorem ignoresPadding_bang : IgnoresPadding (after? "!") := by
  refine ignoresPadding_of_first ('!' == ·) (by decide) ignoresPadding_some ?_
  intro c text
  simp [after?]

theorem ignoresPadding_digits? : IgnoresPadding digits? :=
  ignoresPadding_of_first isDigit (by decide)
    (ignoresPadding_dropWhile isDigit (by decide) (by decide)) fun _ _ => rfl

theorem ignoresPadding_keyword? {keyword : Text} (h : ∀ letter ∈ keyword,
    spells letter ' ' = false ∧ spells letter '\t' = false ∧ spells letter '\n' = false) :
    IgnoresPadding (keyword? keyword) := by
  induction keyword with
  | nil => exact fun _ _ h => .some h
  | cons letter keyword ih =>
      refine ignoresPadding_of_first (spells letter) (h letter (by simp)) (ih ?_) fun _ _ => rfl
      exact fun other hother => h other (by simp [hother])

theorem ignoresPadding_blanks? : IgnoresPadding blanks? := by
  have hspaces {pad : Text} (hpad : IsSpaces pad) (text : Text) :
      blanks? (pad ++ '\n' :: text) = some (trimLeft text) := by
    have hall : ∀ c ∈ pad ++ ['\n'], isBlank c = true := by
      intro c hc
      rcases List.mem_append.mp hc with hc | hc
      · rcases hpad c hc with rfl | rfl <;> decide
      · obtain rfl : c = '\n' := by simpa using hc
        decide
    have htrim : trimLeft (pad ++ '\n' :: text) = trimLeft text := by
      rw [List.append_cons, trimLeft, List.dropWhile_append_of_pos hall]
      rfl
    cases hwhole : pad ++ '\n' :: text with
    | nil => simp at hwhole
    | cons c rest =>
        have hc : isBlank c = true := by
          refine hall c ?_
          rw [List.append_cons] at hwhole
          exact List.mem_of_mem_head? (by
            rw [← List.head?_append_of_ne_nil _ (by simp), hwhole]
            rfl)
        rw [blanks?, if_pos hc, ← htrim, hwhole, trimLeft, trimLeft, List.dropWhile_cons_of_pos hc]
  intro text padded h
  cases h with
  | refl text => exact rel_refl _
  | spaces hpad text =>
      rw [hspaces hpad, ← List.nil_append ('\n' :: text), hspaces (by simp [IsSpaces])]
      exact rel_refl _
  | char c h =>
      simp only [blanks?]
      split
      · exact .some (h.dropWhile (by decide) (by decide))
      · exact .none

theorem ignoresPadding_settings : IgnoresPadding settings.find :=
  (((ignoresPadding_bang.bind ignoresPadding_digits?).bind ignoresPadding_blanks?).bind
    (ignoresPadding_keyword? (by decide))).bind ignoresPadding_blanks?

theorem ignoresPadding_executables : IgnoresPadding executables.find :=
  (ignoresPadding_bang.bind
    (ignoresPadding_dropWhile isDigit (by decide) (by decide))).bind
      (ignoresPadding_dropWhile isBlank (by decide) (by decide))

/-! ## One pass -/

variable {reader : CommentReader} {front pad behind : Text}

/-- Spaces stay. -/
theorem CommentReader.pass_spaces (reader : CommentReader) (hpad : IsSpaces pad) (behind : Text) :
    reader.pass (pad ++ behind) = pad ++ reader.pass behind := by
  refine replaceMatches_append_of_none fun text hne hsuffix => reader.read_eq_none ?_
  obtain ⟨c, text, rfl⟩ := List.exists_cons_of_ne_nil hne
  rw [List.cons_append, openingMark_prefix_cons]
  rintro ⟨rfl, -⟩
  simpa using hpad '/' (hsuffix.mem (by simp))

/-- A line still ends where it ended, if no comment goes across. -/
theorem OpensLine.pass (h : OpensLine behind) (reader : CommentReader) :
    OpensLine (reader.pass behind) := by
  cases behind with
  | nil => exact .inl rfl
  | cons c behind =>
      obtain rfl : c = '\n' := by simpa [OpensLine] using h
      rw [reader.pass_cons (reader.read_eq_none (by simp [openingMark]))]
      exact .inr rfl

/-- What a reader finds at one place of a text and of the same text with spaces at the end of a
line that ends further on: nothing in both, the same comment with the end of the line behind it,
or comments that have the end of the line in them. -/
inductive ReadsAlike (reader : CommentReader) (front pad behind : Text) : Prop
  | nothing (htext : reader.read (front ++ behind) = none)
      (hpadded : reader.read (front ++ (pad ++ behind)) = none)
  | before {payload rest pad' : Text} (hrest : rest.length < front.length) (hpad : IsSpaces pad')
      (htext : reader.read (front ++ behind) = some (payload, rest ++ behind))
      (hpadded : reader.read (front ++ (pad ++ behind)) = some (payload, rest ++ (pad' ++ behind)))
  | across {payload payload' rest : Text} (hpayload : PadsLine payload payload')
      (htext : reader.read (front ++ behind) = some (payload, rest))
      (hpadded : reader.read (front ++ (pad ++ behind)) = some (payload', rest))

/-- Neither what follows nor the spaces in front of it make a mark with what is in front. -/
theorem head?_ne_of_opensLine (hpad : IsSpaces pad) (hbehind : OpensLine behind) {c : Char}
    (hc : c ≠ ' ' ∧ c ≠ '\t' ∧ c ≠ '\n') :
    behind.head? ≠ some c ∧ (pad ++ behind).head? ≠ some c := by
  have hhead : behind.head? ≠ some c := by
    rcases hbehind with rfl | hnewline
    · simp
    · simpa [hnewline] using Ne.symm hc.2.2
  refine ⟨hhead, ?_⟩
  cases pad with
  | nil => exact hhead
  | cons d pad => simpa using hpad.head?_ne hc.1 hc.2.1

/-- A comment that closes in front of the spaces is the same one. -/
theorem readsAlike_closed {inside rest : Text} (hclosing : ¬ closingMark <:+: inside)
    (hpad : IsSpaces pad) (hbehind : OpensLine behind) :
    ReadsAlike reader (blockText inside ++ rest) pad behind := by
  have hread (more : Text) : reader.read (blockText inside ++ rest ++ more)
      = (reader.find inside).map fun found => (reader.place found, reader.skip (rest ++ more)) := by
    rw [List.append_assoc, reader.read_blockText hclosing]
  cases hfind : reader.find inside with
  | none => exact .nothing (by rw [hread, hfind]; rfl) (by rw [hread, hfind]; rfl)
  | some found =>
      obtain ⟨pad', hpad', hskip⟩ := reader.isSkip.append_spaces rest pad hpad
      have hfence := hbehind.isFence
      have hlength := (reader.isSkip.suffix rest).length_le
      have hshorter : (reader.skip rest).length < (blockText inside ++ rest).length := by
        simp only [blockText, openingMark, List.length_append, List.length_cons]
        omega
      have htext := hread behind
      rw [hfind, reader.isSkip.append _ _ hfence] at htext
      have hpadded := hread (pad ++ behind)
      rw [hfind, ← List.append_assoc rest, reader.isSkip.append _ _ hfence, hskip,
        List.append_assoc (reader.skip rest)] at hpadded
      exact .before hshorter (hpad.of_suffix hpad') htext hpadded

/-- A comment that is open at the spaces closes at the same mark behind them, or not at all. -/
theorem readsAlike_open (h : IgnoresPadding reader.find) {opened : Text}
    (hclosing : ¬ closingMark <:+: opened) (hpad : IsSpaces pad) (hbehind : OpensLine behind) :
    ReadsAlike reader (openingMark ++ opened) pad behind := by
  have hclosingPad : ¬ closingMark <:+: pad := by
    intro hoccurs
    have hstar := hpad '*' (hoccurs.mem (by simp [closingMark]))
    simp at hstar
  obtain ⟨hhead, hheadPad⟩ := head?_ne_of_opensLine hpad hbehind (c := '/') (by decide)
  have htext := splitAtFirst?_append hclosing hhead
  have hpadded := splitAtFirst?_append hclosing hheadPad
  rw [splitAtFirst?_append hclosingPad hhead] at hpadded
  have hread (more : Text) : reader.read (openingMark ++ opened ++ more)
      = (splitAtFirst? closingMark (opened ++ more)).bind fun parts =>
          (reader.find parts.1).map fun found => (reader.place found, reader.skip parts.2) := by
    rw [List.append_assoc, reader.read_opened]
  cases hparts : splitAtFirst? closingMark behind with
  | none =>
      rw [hparts] at htext hpadded
      exact .nothing (by rw [hread, htext]; rfl) (by rw [hread, hpadded]; rfl)
  | some parts =>
      obtain ⟨first, rest⟩ := parts
      rw [hparts] at htext hpadded
      obtain ⟨rfl, -⟩ := eq_append_of_splitAtFirst? (by decide) hparts
      -- the line ends inside of the comment, since the closing mark is on a later one
      obtain ⟨later, rfl⟩ : ∃ later, first = '\n' :: later := by
        cases first with
        | nil => simp [OpensLine, closingMark] at hbehind
        | cons c first => simpa [OpensLine] using hbehind
      have hinside : PadsLine (opened ++ '\n' :: later) (opened ++ (pad ++ '\n' :: later)) :=
        (PadsLine.spaces hpad later).append_left opened
      have hfound := h _ _ hinside
      have hreadText := hread ('\n' :: later ++ closingMark ++ rest)
      have hreadPadded := hread (pad ++ ('\n' :: later ++ closingMark ++ rest))
      rw [htext] at hreadText
      rw [hpadded] at hreadPadded
      simp only [Option.map_some, Option.bind_some] at hreadText hreadPadded
      generalize reader.find (opened ++ '\n' :: later) = found,
        reader.find (opened ++ (pad ++ '\n' :: later)) = found' at hfound hreadText hreadPadded
      cases hfound with
      | none => exact .nothing hreadText hreadPadded
      | some hfound =>
          refine .across ?_ hreadText hreadPadded
          rcases reader.place_eq with hplace | hplace
          · rw [hplace, hplace]
            exact .refl []
          · rw [hplace, hplace]
            exact .char '\n' hfound

theorem readsAlike (h : IgnoresPadding reader.find) (hfront : front ≠ []) (hpad : IsSpaces pad)
    (hbehind : OpensLine behind) : ReadsAlike reader front pad behind := by
  by_cases hmark : openingMark <+: front
  · obtain ⟨opened, rfl⟩ := hmark
    cases hparts : splitAtFirst? closingMark opened with
    | some parts =>
        obtain ⟨rfl, hclosing⟩ := eq_append_of_splitAtFirst? (by decide) hparts
        have hblock : ReadsAlike reader (blockText parts.1 ++ parts.2) pad behind :=
          readsAlike_closed hclosing hpad hbehind
        simpa [blockText] using hblock
    | none => exact readsAlike_open h ((splitAtFirst?_eq_none (by decide)).mp hparts) hpad hbehind
  · have hnone {more : Text} (hmore : more.head? ≠ some '*') :
        reader.read (front ++ more) = none := by
      refine reader.read_eq_none ?_
      obtain ⟨c, front, rfl⟩ := List.exists_cons_of_ne_nil hfront
      rw [openingMark_prefix_cons, not_and] at hmark
      rw [List.cons_append, openingMark_prefix_cons, not_and]
      intro hc
      cases front with
      | nil => exact hmore
      | cons d front => exact hmark hc
    obtain ⟨hhead, hheadPad⟩ := head?_ne_of_opensLine hpad hbehind (c := '*') (by decide)
    exact .nothing (hnone hhead) (hnone hheadPad)

/-- Spaces at the end of a line are all that may be different behind a pass. The induction is on
the length of what stands in front of them. -/
theorem IsPadded.pass {text padded : Text} (h : IsPadded text padded)
    (hfind : IgnoresPadding reader.find) : IsPadded (reader.pass text) (reader.pass padded) := by
  obtain ⟨front, pad, behind, hpad, hbehind, rfl, rfl⟩ := h
  induction hn : front.length using Nat.strong_induction_on generalizing front pad with
  | _ n ih =>
      cases front with
      | nil =>
          refine ⟨[], pad, reader.pass behind, hpad, hbehind.pass reader, rfl, ?_⟩
          exact reader.pass_spaces hpad behind
      | cons c front =>
          cases readsAlike hfind (List.cons_ne_nil c front) hpad hbehind with
          | nothing htext hpadded =>
              rw [List.cons_append] at htext hpadded ⊢
              rw [List.cons_append, reader.pass_cons htext, reader.pass_cons hpadded]
              exact (ih _ (by simp [← hn]) _ _ hpad rfl).append_left [c]
          | before hrest hpad' htext hpadded =>
              rw [reader.pass_of_read htext, reader.pass_of_read hpadded]
              exact (ih _ (hn ▸ hrest) _ _ hpad' rfl).append_left _
          | across hpayload htext hpadded =>
              rw [reader.pass_of_read htext, reader.pass_of_read hpadded]
              exact (hpayload.append_right _).isPadded

theorem IsPadded.openBlockComments {text padded : Text} (h : IsPadded text padded) :
    IsPadded (openBlockComments text) (openBlockComments padded) :=
  ((h.pass ignoresPadding_settings).pass ignoresPadding_executables).pass ignoresPadding_some

end SchemaMigration.Dump
