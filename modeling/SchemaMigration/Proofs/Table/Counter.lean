import SchemaMigration.Proofs.Text.Layout
import SchemaMigration.Proofs.Text.Recogniser
import SchemaMigration.Proofs.Text.Search
import SchemaMigration.Table.Options

/-!
# Texts without the row counter

The settings of the row counter are taken out of a text with the blanks in front of them. Since a
setting has no blank, no comma and no semicolon inside, a text can be parted in front of each of
these, and each part loses its own settings. Only a setting that begins a part takes the blank in
front of it along.

## Main Definitions

* `EndsSetting` - a character that is no part of a setting
* `withoutCounterFrom_append` - texts that are parted in front of such a character
* `trim_withoutCounter_trim` - blanks at the ends do not matter
* `withoutCounter_join` - what becomes of several texts with spaces between them
* `trim_withoutCounter_join_iff` - when that are the texts that are left of each, with one space
  between them
-/

namespace SchemaMigration

open Text

/-! ## Settings -/

/-- The text behind a setting of the row counter without blanks in front. -/
def behindSetting? (text : Text) : Option Text := (keyword? "AUTO_INCREMENT=" text).bind digits?

theorem counterSetting?_eq (previous : Option Char) (text : Text) :
    counterSetting? previous text = (atWord? previous text).bind fun word =>
      (behindSetting? word).map fun rest => ([], rest) := by
  simp only [counterSetting?, behindSetting?, Option.map_eq_bind, Option.bind_eq_bind,
    Option.bind_assoc]
  rfl

/-- A character that is no part of a setting. -/
structure EndsSetting (stop : Char) : Prop where
  digit : isDigit stop = false
  letter : ∀ letter ∈ "AUTO_INCREMENT=".toList, spells letter stop = false

theorem endsSetting_comma : EndsSetting ',' := ⟨by decide +kernel, by decide +kernel⟩

theorem endsSetting_semicolon : EndsSetting ';' := ⟨by decide +kernel, by decide +kernel⟩

theorem endsSetting_of_isBlank {stop : Char} (h : isBlank stop = true) : EndsSetting stop := by
  constructor
  · have hdigit := of_isBlank (! isDigit ·) (by decide +kernel) h
    simpa using hdigit
  · intro letter hletter
    have hbare : ∀ letter ∈ "AUTO_INCREMENT=".toList,
        isBlank letter = false ∧ isBlank letter.toLower = false := by decide +kernel
    exact spells_eq_false_of_isBlank (hbare letter hletter).1 (hbare letter hletter).2 h

theorem EndsSetting.stopsAt {stop : Char} (h : EndsSetting stop) : StopsAt stop behindSetting? :=
  (stopsAt_keyword? h.letter).bind (stopsAt_digits? h.digit)

theorem behindSetting?_cons {c : Char} {text : Text} (h : EndsSetting c) :
    behindSetting? (c :: text) = none := by
  have hstop := h.stopsAt.append [] text
  rwa [show behindSetting? [] = none from rfl] at hstop

/-- A setting is not empty, and nothing takes its place. -/
theorem suffix_of_counterSetting? {previous : Option Char} {text : Text} {found : Text × Text}
    (h : counterSetting? previous text = some found) : found.1 = [] ∧ found.2 <:+ text.tail := by
  rw [counterSetting?_eq] at h
  obtain ⟨word, hword, hfound⟩ := Option.bind_eq_some_iff.mp h
  obtain ⟨rest, hrest, rfl⟩ := Option.map_eq_some_iff.mp hfound
  refine ⟨rfl, ?_⟩
  have hsuffix : word <:+ text := by
    cases text with
    | nil => cases hword
    | cons c text =>
        simp only [atWord?, Option.ite_none_right_eq_some, Option.some.injEq] at hword
        exact hword.2 ▸ List.dropWhile_suffix _
  have hbehind : rest <:+ word.tail := by
    obtain ⟨behind, hkeyword, hdigits⟩ := Option.bind_eq_some_iff.mp hrest
    have hlength := length_of_keyword? hkeyword
    obtain ⟨front, rfl⟩ := (endsSetting_comma.stopsAt.suffix _ _ hrest)
    have hshorter := ((stopsAt_digits? endsSetting_comma.digit).suffix _ _ hdigits).length_le
    cases front with
    | nil =>
        simp at hlength
        omega
    | cons c front => exact List.suffix_append front rest
  refine hbehind.trans ?_
  obtain ⟨front, rfl⟩ := hsuffix
  cases front with
  | nil => exact List.suffix_rfl
  | cons c front => exact (List.tail_suffix word).trans (List.suffix_append front word)

theorem withoutCounter_sublist (text : Text) : (withoutCounter text).Sublist text :=
  replaceMatchesFrom_sublist (fun _ _ _ hfound => (suffix_of_counterSetting? hfound).1) none 0 text

/-- What is in front of a text only matters if a word may not begin behind it. -/
theorem counterSetting?_congr {previous other : Option Char}
    (h : startsWord previous = startsWord other) (text : Text) :
    counterSetting? previous text = counterSetting? other text := by
  cases text with
  | nil => rfl
  | cons c text => rw [counterSetting?_eq, counterSetting?_eq, atWord?, atWord?, h]

theorem startsWord_of_isBlank {c : Char} (h : isBlank c = true) : startsWord (some c) = true := by
  rw [startsWord, isWordCharacter_of_isBlank h]
  rfl

/-- Behind a blank there is a setting if there is one from that blank on. -/
theorem counterSetting?_cons_of_isBlank {previous : Option Char} {c : Char} (h : isBlank c = true)
    (text : Text) : counterSetting? previous (c :: text) = counterSetting? (some c) text := by
  have htrim : trimLeft (c :: text) = trimLeft text := by simp [trimLeft, h]
  have hword : atWord? previous (c :: text) = some (trimLeft text) := by
    rw [atWord?, h, Bool.true_or, if_pos rfl, htrim]
  rw [counterSetting?_eq, counterSetting?_eq, hword]
  cases text with
  | nil => rfl
  | cons d text => rw [atWord?, startsWord_of_isBlank h, Bool.or_true, if_pos rfl]

/-- What stands behind a character that is no part of a setting has no part in it either. -/
theorem counterSetting?_append {stop : Char} (hstop : EndsSetting stop) {front back : Text}
    (hparts : isBlank stop = false ∨ ∀ c ∈ front.getLast?, isBlank c = false)
    (previous : Option Char) {text : Text} (hne : text ≠ []) (htext : text <:+ front) :
    counterSetting? previous (text ++ stop :: back)
      = (counterSetting? previous text).map fun found => (found.1, found.2 ++ stop :: back) := by
  have htrim : trimLeft (text ++ stop :: back) = trimLeft text ++ stop :: back := by
    rcases hparts with hblank | hlast
    · exact dropWhile_append_stop hblank text back
    · -- the text ends with what is no blank
      obtain ⟨used, rfl⟩ := htext
      rw [List.getLast?_append_of_ne_nil _ hne] at hlast
      exact trimLeft_append (trimLeft_ne_nil hne hlast) _
  have hword : atWord? previous (text ++ stop :: back)
      = (atWord? previous text).map (· ++ stop :: back) := by
    obtain ⟨c, text, rfl⟩ := List.exists_cons_of_ne_nil hne
    rw [List.cons_append] at htrim ⊢
    rw [atWord?, atWord?, htrim]
    split <;> rfl
  rw [counterSetting?_eq, counterSetting?_eq, hword]
  cases atWord? previous text with
  | none => rfl
  | some word =>
      rw [Option.map_some, Option.bind_some, Option.bind_some, hstop.stopsAt.append,
        Option.map_map, Option.map_map]
      rfl

/-! ## Texts one behind the other -/

/-- A text without the settings of the row counter, behind a character. -/
def withoutCounterFrom (previous : Option Char) (text : Text) : Text :=
  replaceMatchesFrom counterSetting? previous 0 text

theorem withoutCounter_eq (text : Text) : withoutCounter text = withoutCounterFrom none text := rfl

theorem withoutCounterFrom_nil (previous : Option Char) : withoutCounterFrom previous [] = [] := rfl

theorem withoutCounterFrom_of_none {previous : Option Char} {c : Char} {text : Text}
    (h : counterSetting? previous (c :: text) = none) :
    withoutCounterFrom previous (c :: text) = c :: withoutCounterFrom (some c) text :=
  replaceMatchesFrom_of_none h

/-- A setting is left out; what becomes of the text behind it depends on its last digit. -/
theorem withoutCounterFrom_of_some {previous : Option Char} {used rest : Text} (hne : used ≠ [])
    (h : counterSetting? previous (used ++ rest) = some ([], rest)) :
    withoutCounterFrom previous (used ++ rest) = withoutCounterFrom used.getLast? rest :=
  replaceMatchesFrom_of_some hne h

theorem exists_of_counterSetting? {previous : Option Char} {text : Text}
    (h : (counterSetting? previous text).isSome = true) : ∃ used rest, used ≠ [] ∧
      text = used ++ rest ∧ counterSetting? previous text = some ([], rest) := by
  obtain ⟨⟨replacement, rest⟩, hfound⟩ := Option.isSome_iff_exists.mp h
  obtain ⟨rfl, hrest⟩ := suffix_of_counterSetting? hfound
  cases text with
  | nil => cases hfound
  | cons c text =>
      obtain ⟨used, rfl⟩ : ∃ used, used ++ rest = text := hrest
      exact ⟨c :: used, rest, by simp, rfl, hfound⟩

theorem withoutCounterFrom_congr {previous other : Option Char}
    (h : startsWord previous = startsWord other) (text : Text) :
    withoutCounterFrom previous text = withoutCounterFrom other text := by
  cases text with
  | nil => rfl
  | cons c text =>
      rw [withoutCounterFrom, withoutCounterFrom, replaceMatchesFrom, replaceMatchesFrom,
        counterSetting?_congr h]

/-- A text is parted in front of a character that is no part of a setting. -/
theorem withoutCounterFrom_append {stop : Char} (hstop : EndsSetting stop) {front back : Text}
    (hparts : isBlank stop = false ∨ ∀ c ∈ front.getLast?, isBlank c = false)
    (previous : Option Char) : withoutCounterFrom previous (front ++ stop :: back)
      = withoutCounterFrom previous front
        ++ withoutCounterFrom (front.getLast?.or previous) (stop :: back) :=
  replaceMatchesFrom_append (fun other _ => counterSetting?_append hstop hparts other)
    (fun _ _ _ hfound => (suffix_of_counterSetting? hfound).2) previous

/-- Nothing is taken out of characters that are no parts of settings. -/
theorem withoutCounterFrom_eq_self {text : Text} (h : ∀ c ∈ text, EndsSetting c)
    (previous : Option Char) : withoutCounterFrom previous text = text := by
  induction text generalizing previous with
  | nil => rfl
  | cons c text ih =>
      obtain ⟨hhead, hrest⟩ := List.forall_mem_cons.mp h
      have hnone : counterSetting? previous (c :: text) = none := by
        rw [counterSetting?_eq, Option.bind_eq_none_iff]
        intro word hword
        simp only [atWord?, Option.ite_none_right_eq_some, Option.some.injEq] at hword
        obtain ⟨-, rfl⟩ := hword
        rw [Option.map_eq_none_iff]
        cases htrim : trimLeft (c :: text) with
        | nil => rfl
        | cons d rest =>
            have hmem : d ∈ trimLeft (c :: text) := htrim ▸ List.mem_cons_self
            exact behindSetting?_cons (h d ((List.dropWhile_suffix _).subset hmem))
      rw [withoutCounterFrom_of_none hnone, ih hrest]

/-- Such characters stay behind a text. -/
theorem withoutCounter_append {front pad : Text} (hpad : ∀ c ∈ pad, EndsSetting c)
    (hparts : (∀ c ∈ pad.head?, isBlank c = false) ∨ ∀ c ∈ front.getLast?, isBlank c = false) :
    withoutCounter (front ++ pad) = withoutCounter front ++ pad := by
  cases pad with
  | nil => simp
  | cons stop pad =>
      have hstop : EndsSetting stop := hpad stop (by simp)
      rw [withoutCounter_eq, withoutCounterFrom_append hstop (hparts.imp_left (· stop rfl)),
        withoutCounterFrom_eq_self hpad, withoutCounter_eq]

/-- A blank stays unless a setting follows it. -/
theorem withoutCounterFrom_cons_of_isBlank {c : Char} (h : isBlank c = true)
    (previous : Option Char) (text : Text) : withoutCounterFrom previous (c :: text) =
      if (counterSetting? (some c) text).isSome then withoutCounterFrom (some c) text
      else c :: withoutCounterFrom (some c) text := by
  have hsame : counterSetting? previous (c :: text) = counterSetting? (some c) text :=
    counterSetting?_cons_of_isBlank h text
  split
  · rename_i hsome
    obtain ⟨used, rest, hne, rfl, hfound⟩ := exists_of_counterSetting? hsome
    rw [hfound] at hsame
    have hlast : (c :: used).getLast? = used.getLast? := by
      obtain ⟨d, used, rfl⟩ := List.exists_cons_of_ne_nil hne
      exact List.getLast?_cons_cons
    calc withoutCounterFrom previous (c :: used ++ rest)
        = withoutCounterFrom (c :: used).getLast? rest :=
          withoutCounterFrom_of_some (by simp) hsame
      _ = withoutCounterFrom (some c) (used ++ rest) := by
          rw [hlast, withoutCounterFrom_of_some hne hfound]
  · rename_i hnone
    rw [Option.not_isSome_iff_eq_none] at hnone
    exact withoutCounterFrom_of_none (hsame.trans hnone)

/-! ## Blanks at the ends -/

/-- Something is left of a text that does not begin with a setting. -/
theorem withoutCounterFrom_ne_nil {previous : Option Char} {text : Text} (hne : text ≠ [])
    (h : counterSetting? previous text = none) : withoutCounterFrom previous text ≠ [] := by
  obtain ⟨c, text, rfl⟩ := List.exists_cons_of_ne_nil hne
  rw [withoutCounterFrom_of_none h]
  simp

/-- A text without blanks at its end has none there without its settings. -/
theorem getLast?_withoutCounterFrom {text : Text} (h : ∀ c ∈ text.getLast?, isBlank c = false)
    (previous : Option Char) :
    ∀ c ∈ (withoutCounterFrom previous text).getLast?, isBlank c = false := by
  induction hn : text.length using Nat.strong_induction_on generalizing text previous with
  | _ n ih =>
      have hbehind {used rest : Text} (hne : used ≠ []) (htext : text = used ++ rest) :
          ∀ c ∈ (withoutCounterFrom used.getLast? rest).getLast?, isBlank c = false := by
        have hlength := congrArg List.length htext
        have hpositive := List.length_pos_of_ne_nil hne
        rw [List.length_append] at hlength
        refine ih rest.length (by omega) (fun c hc => h c ?_) _ rfl
        rw [htext, List.getLast?_append, Option.mem_def.mp hc]
        rfl
      cases hfound : counterSetting? previous text with
      | some found =>
          obtain ⟨used, rest, hne, rfl, hused⟩ :=
            exists_of_counterSetting? (Option.isSome_iff_exists.mpr ⟨found, hfound⟩)
          rw [withoutCounterFrom_of_some hne hused]
          exact hbehind hne rfl
      | none =>
          cases text with
          | nil => simp [withoutCounterFrom_nil]
          | cons c text =>
              rw [withoutCounterFrom_of_none hfound]
              cases hrest : withoutCounterFrom (some c) text with
              | cons d rest =>
                  rw [List.getLast?_cons_cons, ← hrest]
                  exact hbehind (List.cons_ne_nil c []) rfl
              | nil =>
                  -- nothing follows the character, which is no blank then
                  rintro d ⟨⟩
                  by_contra hblank
                  have hnone : counterSetting? (some c) text = none := by
                    rwa [counterSetting?_cons_of_isBlank (by simpa using hblank)] at hfound
                  by_cases hne : text = []
                  · exact hblank (h c (by simp [hne]))
                  · exact withoutCounterFrom_ne_nil hne hnone hrest

/-- Blanks in front of a text stay or go. -/
theorem trim_withoutCounterFrom_append {pad : Text} (hpad : ∀ c ∈ pad, isBlank c = true)
    {previous : Option Char} (hprevious : startsWord previous = true) (text : Text) :
    trim (withoutCounterFrom previous (pad ++ text)) = trim (withoutCounter text) := by
  induction pad generalizing previous with
  | nil => exact congrArg trim (withoutCounterFrom_congr hprevious text)
  | cons c pad ih =>
      obtain ⟨hc, hpad⟩ := List.forall_mem_cons.mp hpad
      rw [List.cons_append, withoutCounterFrom_cons_of_isBlank hc,
        ← ih hpad (startsWord_of_isBlank hc)]
      split
      · rfl
      · exact trim_blank_append (List.forall_mem_singleton.mpr hc) _

/-- Whether blanks at the ends of a text go before its settings or behind them is the same. -/
theorem trim_withoutCounter_trim (text : Text) :
    trim (withoutCounter (trim text)) = trim (withoutCounter text) := by
  obtain ⟨front, back, htext, hfront, hback⟩ := exists_trim text
  have hclosing : withoutCounter (trim text ++ back) = withoutCounter (trim text) ++ back :=
    withoutCounter_append (fun c hc => endsSetting_of_isBlank (hback c hc)) (.inr getLast?_trim)
  conv_rhs => rw [htext, List.append_assoc, withoutCounter_eq,
    trim_withoutCounterFrom_append hfront rfl, hclosing]
  rw [← trim_trimRight, ← trim_trimRight (withoutCounter (trim text) ++ back),
    trimRight_append_of_blank _ hback]

theorem getLast?_withoutCounter {text : Text} (h : ∀ c ∈ text.getLast?, isBlank c = false) :
    ∀ c ∈ (withoutCounter text).getLast?, isBlank c = false :=
  getLast?_withoutCounterFrom h none

/-! ## Several texts -/

/-- What is left of a space and a text behind it. -/
def leftBehindSpace (text : Text) : Text :=
  if (counterSetting? none text).isSome then withoutCounter text else ' ' :: withoutCounter text

/-- A trimmed text that is not empty. -/
structure IsTrimmed (text : Text) : Prop where
  ne_nil : text ≠ []
  head : ∀ c ∈ text.head?, isBlank c = false
  last : ∀ c ∈ text.getLast?, isBlank c = false

theorem join_space_cons (first : Text) (texts : List Text) :
    join " " (first :: texts) = first ++ texts.flatMap (' ' :: ·) := by
  induction texts generalizing first with
  | nil => simp [join]
  | cons next texts ih =>
      have hjoin : join " " (first :: next :: texts)
          = first ++ " ".toList ++ join " " (next :: texts) := rfl
      rw [hjoin, ih, List.append_assoc]
      rfl

theorem withoutCounterFrom_space (previous : Option Char) (text : Text) :
    withoutCounterFrom previous (' ' :: text) = leftBehindSpace text := by
  have hspace : startsWord (some ' ') = startsWord none := by decide +kernel
  rw [withoutCounterFrom_cons_of_isBlank (by decide), counterSetting?_congr hspace,
    withoutCounterFrom_congr hspace, leftBehindSpace, withoutCounter_eq]

/-- Texts behind spaces lose their settings each for itself. -/
theorem withoutCounterFrom_spaced {texts : List Text} (h : ∀ text ∈ texts, IsTrimmed text)
    (previous : Option Char) :
    withoutCounterFrom previous (texts.flatMap (' ' :: ·)) = texts.flatMap leftBehindSpace := by
  induction texts generalizing previous with
  | nil => rfl
  | cons text texts ih =>
      obtain ⟨htext, htexts⟩ := List.forall_mem_cons.mp h
      rw [List.flatMap_cons, List.flatMap_cons, ← withoutCounterFrom_space previous]
      cases texts with
      | nil => simp
      | cons next texts =>
          have hlast : ∀ c ∈ (' ' :: text).getLast?, isBlank c = false := by
            obtain ⟨d, rest, rfl⟩ := List.exists_cons_of_ne_nil htext.ne_nil
            rw [List.getLast?_cons_cons]
            exact htext.last
          rw [← ih htexts ((' ' :: text).getLast?.or previous)]
          exact withoutCounterFrom_append (endsSetting_of_isBlank (by decide)) (.inr hlast) previous

/-- So do texts with spaces between them. -/
theorem withoutCounter_join {first : Text} {texts : List Text} (hfirst : IsTrimmed first)
    (h : ∀ text ∈ texts, IsTrimmed text) : withoutCounter (join " " (first :: texts)) =
      withoutCounter first ++ texts.flatMap leftBehindSpace := by
  rw [join_space_cons]
  cases texts with
  | nil => simp
  | cons next texts =>
      rw [← withoutCounterFrom_spaced h (first.getLast?.or none)]
      exact withoutCounterFrom_append (endsSetting_of_isBlank (by decide)) (.inr hfirst.last) none

theorem IsTrimmed.trim_eq {text : Text} (h : IsTrimmed text) : trim text = text :=
  trim_eq_self h.head h.last

theorem isTrimmed_of_trim_eq {text : Text} (hne : text ≠ []) (h : trim text = text) :
    IsTrimmed text :=
  ⟨hne, h ▸ head?_trim, h ▸ getLast?_trim⟩

theorem IsTrimmed.join {texts : List Text} (hne : texts ≠ [])
    (h : ∀ text ∈ texts, IsTrimmed text) : IsTrimmed (join " " texts) := by
  obtain ⟨first, texts, rfl⟩ := List.exists_cons_of_ne_nil hne
  obtain ⟨hfirst, htexts⟩ := List.forall_mem_cons.mp h
  rw [join_space_cons]
  refine ⟨List.append_ne_nil_of_left_ne_nil hfirst.ne_nil _, ?_, ?_⟩
  · rw [List.head?_append_of_ne_nil _ hfirst.ne_nil]
    exact hfirst.head
  · -- the last character is that of the last text
    rcases List.eq_nil_or_concat texts with rfl | ⟨front, last, rfl⟩
    · simpa using hfirst.last
    · have hlast : IsTrimmed last := htexts last (by simp)
      rw [List.concat_eq_append, List.flatMap_append, ← List.append_assoc, List.flatMap_singleton,
        List.getLast?_append_of_ne_nil _ (List.cons_ne_nil _ _)]
      obtain ⟨c, rest, rfl⟩ := List.exists_cons_of_ne_nil hlast.ne_nil
      rw [List.getLast?_cons_cons]
      exact hlast.last

/-- Behind a text there is a space in front of each of several others that is not empty. -/
theorem join_space_filter {first : Text} (hne : first ≠ []) (texts : List Text) :
    join " " ((first :: texts).filter (! ·.isEmpty)) = first ++ texts.flatMap spaced := by
  have hspaced : (texts.filter (! ·.isEmpty)).flatMap (' ' :: ·) = texts.flatMap spaced := by
    induction texts with
    | nil => rfl
    | cons text texts ih =>
        cases text with
        | nil => exact ih
        | cons c text => simpa [spaced] using ih
  rw [List.filter_cons_of_pos (by simpa using hne), join_space_cons, hspaced]

theorem trim_leftBehindSpace (text : Text) :
    trim (leftBehindSpace text) = trim (withoutCounter text) := by
  rw [leftBehindSpace]
  split
  · rfl
  · exact trim_blank_append (List.forall_mem_singleton.mpr (by decide)) _

/-- Behind a space a text that begins with a setting may leave none, or more than one. -/
theorem leftBehindSpace_eq_iff {text : Text} (h : IsTrimmed text) :
    leftBehindSpace text = spaced (trim (withoutCounter text)) ↔
      ((counterSetting? none text).isSome = true →
        withoutCounter text = spaced (trim (withoutCounter text))) := by
  rw [leftBehindSpace]
  split
  · rename_i hsome
    simp [hsome]
  · rename_i hnone
    refine iff_of_true ?_ fun hsome => absurd hsome hnone
    rw [Option.not_isSome_iff_eq_none] at hnone
    have hne : withoutCounter text ≠ [] := withoutCounterFrom_ne_nil h.ne_nil hnone
    have htrimmed : trim (withoutCounter text) = withoutCounter text := by
      refine trim_eq_self ?_ (getLast?_withoutCounter h.last)
      obtain ⟨c, rest, rfl⟩ := List.exists_cons_of_ne_nil h.ne_nil
      rw [withoutCounter_eq, withoutCounterFrom_of_none hnone]
      exact h.head
    rw [htrimmed, spaced, if_neg (by simpa using hne)]

/-- Texts behind spaces leave the same as what is left of each behind one space only if each of them
does so. -/
theorem flatMap_leftBehindSpace_iff {texts : List Text} (h : ∀ text ∈ texts, IsTrimmed text) :
    texts.flatMap leftBehindSpace =
        texts.flatMap (fun text => spaced (trim (withoutCounter text))) ↔
      ∀ text ∈ texts, leftBehindSpace text = spaced (trim (withoutCounter text)) := by
  induction texts with
  | nil => simp
  | cons text texts ih =>
      obtain ⟨htext, htexts⟩ := List.forall_mem_cons.mp h
      rw [List.forall_mem_cons, ← ih htexts, List.flatMap_cons, List.flatMap_cons]
      refine ⟨fun heq => ?_, fun ⟨hhead, hrest⟩ => by rw [hhead, hrest]⟩
      have hlast : ∀ c ∈ (leftBehindSpace text).getLast?, isBlank c = false := by
        rw [← withoutCounterFrom_space none]
        refine getLast?_withoutCounterFrom ?_ none
        obtain ⟨c, rest, rfl⟩ := List.exists_cons_of_ne_nil htext.ne_nil
        rw [List.getLast?_cons_cons]
        exact htext.last
      -- what is left are blanks and then the text without those
      have hparts : leftBehindSpace text
          = (leftBehindSpace text).takeWhile isBlank ++ trim (withoutCounter text) := by
        rw [← trim_leftBehindSpace, trim_eq_trimLeft hlast, trimLeft,
          List.takeWhile_append_dropWhile]
      by_cases hnil : trim (withoutCounter text) = []
      · have hnone : leftBehindSpace text = [] := by
          by_contra hne
          refine trimLeft_ne_nil hne hlast ?_
          rw [← trim_eq_trimLeft hlast, trim_leftBehindSpace, hnil]
        rw [hnone, hnil] at heq ⊢
        exact ⟨rfl, heq⟩
      · have hspaced : spaced (trim (withoutCounter text)) = ' ' :: trim (withoutCounter text) := by
          rw [spaced, if_neg (by simpa using hnil)]
        have hhead (rest : Text) :
            ∀ c ∈ (trim (withoutCounter text) ++ rest).head?, isBlank c = false := by
          rw [List.head?_append_of_ne_nil _ hnil]
          exact head?_trim
        -- so the same blanks are in front of the same text
        have hlead : (leftBehindSpace text).takeWhile isBlank = [' '] := by
          rw [hparts, hspaced, List.append_assoc] at heq
          have hblanks := congrArg (List.takeWhile isBlank) heq
          rwa [takeWhile_append_of_ends (fun c hc => List.mem_takeWhile_imp hc) (hhead _),
            ← List.singleton_append, List.append_assoc,
            takeWhile_append_of_ends (by decide) (hhead _)] at hblanks
        have hsame : leftBehindSpace text = spaced (trim (withoutCounter text)) := by
          rw [hparts, hlead, hspaced]
          rfl
        rw [hsame] at heq
        exact ⟨hsame, List.append_cancel_left heq⟩

/-- What is left of texts with spaces between them is what is left of each, with one space between
them, just if that is so for each text behind the first of which something is left. -/
theorem trim_withoutCounter_join_iff {texts : List Text} (h : ∀ text ∈ texts, IsTrimmed text) :
    trim (withoutCounter (join " " texts)) =
        join " " ((texts.map fun text => trim (withoutCounter text)).filter (! ·.isEmpty)) ↔
      ∀ text ∈ (texts.dropWhile fun text => (withoutCounter text).isEmpty).tail,
        leftBehindSpace text = spaced (trim (withoutCounter text)) := by
  induction texts with
  | nil => simp [join, withoutCounter_eq, withoutCounterFrom_nil, trim, trimLeft, trimRight]
  | cons text texts ih =>
      obtain ⟨htext, htexts⟩ := List.forall_mem_cons.mp h
      have hjoin := withoutCounter_join htext htexts
      by_cases hnil : withoutCounter text = []
      · have hrest : trim (withoutCounter (join " " (text :: texts)))
            = trim (withoutCounter (join " " texts)) := by
          rw [hjoin, hnil, List.nil_append]
          cases texts with
          | nil => rfl
          | cons next texts =>
              obtain ⟨hnext, hothers⟩ := List.forall_mem_cons.mp htexts
              rw [withoutCounter_join hnext hothers, List.flatMap_cons, leftBehindSpace]
              split
              · rfl
              · exact trim_blank_append (List.forall_mem_singleton.mpr (by decide)) _
        have hdrop : (text :: texts).dropWhile (fun text => (withoutCounter text).isEmpty)
            = texts.dropWhile fun text => (withoutCounter text).isEmpty := by
          rw [List.dropWhile_cons_of_pos (by simp [hnil])]
        have htrim : trim (withoutCounter text) = [] := by
          rw [hnil]
          rfl
        rw [hrest, hdrop, ← ih htexts, List.map_cons, htrim]
        rfl
      · have hlast := getLast?_withoutCounter htext.last
        have htrimNe := trimLeft_ne_nil hnil hlast
        have hwhole : trim (withoutCounter (join " " (text :: texts)))
            = trim (withoutCounter text) ++ texts.flatMap leftBehindSpace := by
          have htrimmed := IsTrimmed.join (List.cons_ne_nil _ _) h
          rw [trim_eq_trimLeft (getLast?_withoutCounter htrimmed.last), hjoin,
            trimLeft_append htrimNe, trim_eq_trimLeft hlast]
        have hdrop : (text :: texts).dropWhile (fun text => (withoutCounter text).isEmpty)
            = text :: texts := by
          rw [List.dropWhile_cons_of_neg (by simpa using hnil)]
        rw [hwhole, hdrop, List.tail_cons, ← flatMap_leftBehindSpace_iff htexts, List.map_cons,
          join_space_filter (by rwa [trim_eq_trimLeft hlast]), List.append_cancel_left_eq,
          List.flatMap_map]

end SchemaMigration
