import SchemaMigration.Proofs.Pattern.Setting
import SchemaMigration.Proofs.Table.Counter
import SchemaMigration.Proofs.Table.OptionLines

/-!
# Words with blanks in front

A text is parted into words with the blanks in front of each. Settings have no blanks inside, so
what takes them out acts on each word for itself, and on the blanks in front of a word that begins
with one.

## Main Definitions

* `partsSettings` - a character that is no part of a setting
* `PaddedWord`, `layOut` - a word with the blanks in front of it, and the text of several
* `AreApart` - words of which each but the first begins with such a character
* `exists_layOut` - every text that does not end with a blank is made of such words
* `ActsOnWords` - a pass that takes something out of each word, and blanks in front of some
* `actsOnWords_withoutSetting`, `actsOnWords_withoutCounter` - the passes that take out settings
-/

namespace SchemaMigration

open Text

/-! ## Characters between settings -/

/-- Whether a character is neither part of a word nor an equals sign, so that no setting has it. -/
def partsSettings (c : Char) : Bool := ! isWordCharacter c && c != '='

theorem partsSettings_of_isBlank {c : Char} (h : isBlank c = true) : partsSettings c = true :=
  of_isBlank partsSettings (by decide +kernel) h

theorem startsWord_of_partsSettings {c : Char} (h : partsSettings c = true) :
    startsWord (some c) = true := by
  rw [partsSettings, Bool.and_eq_true] at h
  exact h.1

/-- Whether one of the ranges has all code points of a block. -/
def coversBlock (ranges : List (Nat × Nat)) (first last : Nat) : Bool :=
  ranges.any fun (low, high) => low ≤ first && last ≤ high

theorem any_of_coversBlock {ranges : List (Nat × Nat)} {first last n : Nat}
    (h : coversBlock ranges first last = true) (hfirst : first ≤ n) (hlast : n ≤ last) :
    (ranges.any fun (low, high) => low ≤ n && n ≤ high) = true := by
  obtain ⟨range, hrange, hcovers⟩ := List.any_eq_true.mp h
  refine List.any_eq_true.mpr ⟨range, hrange, ?_⟩
  simp only [Bool.and_eq_true, decide_eq_true_eq] at hcovers ⊢
  exact ⟨hcovers.1.trans hfirst, hlast.trans hcovers.2⟩

/-- Each block of digits lies in one of the ranges of word characters. -/
theorem coversBlock_digits : ∀ first ∈ digitZeros,
    (first + 9 < 0x1000 ∧ coversBlock wordRangesBelow1000 first (first + 9) = true) ∨
    (0x1000 ≤ first ∧ first + 9 ≤ 0xFFFF ∧
      coversBlock wordRangesFrom1000 first (first + 9) = true) ∨
    (0xFFFF < first ∧ coversBlock wordRangesAboveFFFF first (first + 9) = true) := by
  decide +kernel

theorem isWordCharacter_of_isDigit {c : Char} (h : isDigit c = true) :
    isWordCharacter c = true := by
  rw [isDigit, digitValue?, Option.isSome_map, List.find?_isSome] at h
  obtain ⟨first, hfirst, hinside⟩ := h
  simp only [Bool.and_eq_true, decide_eq_true_eq] at hinside
  have hlast : c.toNat ≤ first + 9 := by omega
  rw [isWordCharacter]
  rcases coversBlock_digits first hfirst with
    ⟨hbelow, hcovers⟩ | ⟨hfrom, hbelow, hcovers⟩ | ⟨hfrom, hcovers⟩
  · rw [if_pos (by omega)]
    exact any_of_coversBlock hcovers hinside.1 hlast
  · rw [if_neg (by omega), if_pos (by omega)]
    exact any_of_coversBlock hcovers hinside.1 hlast
  · rw [if_neg (by omega), if_neg (by omega)]
    exact any_of_coversBlock hcovers hinside.1 hlast

theorem isDigit_of_partsSettings {c : Char} (h : partsSettings c = true) : isDigit c = false := by
  rw [Bool.eq_false_iff]
  intro hdigit
  simp [partsSettings, isWordCharacter_of_isDigit hdigit] at h

/-- Such a character spells no letter of a keyword that has none. -/
theorem spells_of_partsSettings {keyword : Text}
    (hkeyword : ∀ letter ∈ keyword, ∀ d ∈ spellings letter, partsSettings d = false) {c : Char}
    (h : partsSettings c = true) : ∀ letter ∈ keyword, spells letter c = false := by
  intro letter hletter
  rw [Bool.eq_false_iff]
  intro hspells
  have hnot := hkeyword letter hletter c (mem_spellings.mpr hspells)
  rw [h] at hnot
  cases hnot

theorem endsSetting_of_partsSettings {c : Char} (h : partsSettings c = true) : EndsSetting c :=
  ⟨isDigit_of_partsSettings h, spells_of_partsSettings (by decide +kernel) h⟩

/-! ## Words -/

/-- A word with the blanks in front of it. -/
structure PaddedWord where
  pad : Text
  word : Text

namespace PaddedWord

/-- The text of a padded word. -/
def text (p : PaddedWord) : Text := p.pad ++ p.word

/-- The pad has blanks only, the word none. -/
structure IsPlain (p : PaddedWord) : Prop where
  pad : ∀ c ∈ p.pad, isBlank c = true
  word : ∀ c ∈ p.word, isBlank c = false

end PaddedWord

/-- The text of padded words. -/
def layOut (words : List PaddedWord) : Text := words.flatMap (·.text)

@[simp] theorem layOut_nil : layOut [] = [] := rfl

@[simp] theorem layOut_cons (p : PaddedWord) (words : List PaddedWord) :
    layOut (p :: words) = p.text ++ layOut words := rfl

@[simp] theorem layOut_append (front back : List PaddedWord) :
    layOut (front ++ back) = layOut front ++ layOut back :=
  List.flatMap_append ..

/-- Each word begins, with what is in front of it, with a character that is no part of a setting. -/
structure ArePadded (words : List PaddedWord) : Prop where
  isPlain : ∀ p ∈ words, p.IsPlain
  head : ∀ p ∈ words, ∀ c ∈ p.text.head?, partsSettings c = true

/-- Words that are parted by such characters; the first one needs none. -/
structure AreApart (words : List PaddedWord) : Prop where
  isPlain : ∀ p ∈ words, p.IsPlain
  padded : ArePadded words.tail

namespace ArePadded

variable {p : PaddedWord} {words : List PaddedWord}

theorem tail (h : ArePadded (p :: words)) : ArePadded words where
  isPlain q hq := h.isPlain q (List.mem_cons_of_mem _ hq)
  head q hq := h.head q (List.mem_cons_of_mem _ hq)

theorem areApart (h : ArePadded words) : AreApart words where
  isPlain := h.isPlain
  padded := ⟨fun p hp => h.isPlain p (List.mem_of_mem_tail hp),
    fun p hp => h.head p (List.mem_of_mem_tail hp)⟩

/-- The text begins with such a character. -/
theorem head?_layOut (h : ArePadded words) :
    ∀ c ∈ (layOut words).head?, partsSettings c = true := by
  induction words with
  | nil => simp
  | cons p words ih =>
      have hfirst := h.head p (by simp)
      rw [layOut_cons]
      cases hp : p.text with
      | nil => exact ih h.tail
      | cons d text =>
          rintro c ⟨⟩
          exact hfirst d (by simp [hp])

end ArePadded

/-- Words that make a text which begins with such a character are padded. -/
theorem AreApart.arePadded {words : List PaddedWord} (h : AreApart words)
    (hhead : ∀ c ∈ (layOut words).head?, partsSettings c = true) : ArePadded words where
  isPlain := h.isPlain
  head p hp c hc := by
    cases words with
    | nil => cases hp
    | cons first words =>
        rcases List.mem_cons.mp hp with rfl | hmem
        · refine hhead c ?_
          rw [layOut_cons, List.head?_append, Option.mem_def.mp hc]
          rfl
        · exact h.padded.head p hmem c hc

namespace AreApart

variable {front back : List PaddedWord}

theorem append_left (h : AreApart (front ++ back)) : AreApart front where
  isPlain p hp := h.isPlain p (List.mem_append_left back hp)
  padded := by
    cases front with
    | nil => exact ⟨by simp, by simp⟩
    | cons first front =>
        exact ⟨fun p hp => h.padded.isPlain p (List.mem_append_left back hp),
          fun p hp => h.padded.head p (List.mem_append_left back hp)⟩

theorem append_right (h : AreApart (front ++ back)) : AreApart back := by
  cases front with
  | nil => exact h
  | cons first front =>
      have hpadded : ArePadded (front ++ back) := h.padded
      exact ArePadded.areApart ⟨fun p hp => hpadded.isPlain p (List.mem_append_right front hp),
        fun p hp => hpadded.head p (List.mem_append_right front hp)⟩

/-- Behind words that are parted the first of others needs such a character too. -/
theorem append (hfront : AreApart front) (hback : ArePadded back) : AreApart (front ++ back) where
  isPlain := List.forall_mem_append.mpr ⟨hfront.isPlain, hback.isPlain⟩
  padded := by
    cases front with
    | nil => exact hback.areApart.padded
    | cons first front =>
        exact ⟨List.forall_mem_append.mpr ⟨hfront.padded.isPlain, hback.isPlain⟩,
          List.forall_mem_append.mpr ⟨hfront.padded.head, hback.head⟩⟩

/-- The first word needs no blanks. -/
theorem without_pad {p : PaddedWord} (h : AreApart (p :: back)) :
    AreApart (⟨[], p.word⟩ :: back) where
  isPlain := List.forall_mem_cons.mpr
    ⟨⟨by simp, (h.isPlain p (by simp)).word⟩, (List.forall_mem_cons.mp h.isPlain).2⟩
  padded := h.padded

end AreApart

/-- A text that does not end with a blank is made of padded words. -/
theorem exists_layOut {text : Text} (h : ∀ c ∈ text.getLast?, isBlank c = false) :
    ∃ words, text = layOut words ∧ AreApart words ∧ ∀ p ∈ words, p.word ≠ [] := by
  induction hn : text.length using Nat.strong_induction_on generalizing text with
  | _ n ih =>
      by_cases hnil : text = []
      · exact ⟨[], by simp [hnil], ⟨by simp, ⟨by simp, by simp⟩⟩, by simp⟩
      · have hne := trimLeft_ne_nil hnil h
        let pad := text.takeWhile isBlank
        let word := (trimLeft text).takeWhile (! isBlank ·)
        let rest := (trimLeft text).dropWhile (! isBlank ·)
        have htext : text = pad ++ (word ++ rest) := by
          simp only [pad, word, rest, trimLeft, List.takeWhile_append_dropWhile]
        have hword : word ≠ [] := by
          obtain ⟨c, behind, hc⟩ := List.exists_cons_of_ne_nil hne
          simp [word, hc, isBlank_of_trimLeft_eq_cons hc]
        have hrest : ∀ c ∈ rest.head?, partsSettings c = true := by
          intro c hc
          exact partsSettings_of_isBlank (by simpa using head?_dropWhile c hc)
        have hlength : rest.length < n := by
          have hsum := congrArg List.length htext
          have hpositive := List.length_pos_of_ne_nil hword
          simp only [List.length_append] at hsum
          omega
        have hlast : ∀ c ∈ rest.getLast?, isBlank c = false := by
          intro c hc
          refine h c ?_
          rw [htext, ← List.append_assoc, List.getLast?_append, Option.mem_def.mp hc]
          rfl
        obtain ⟨words, hwords, hapart, hnonempty⟩ := ih rest.length hlength hlast rfl
        refine ⟨⟨pad, word⟩ :: words, ?_, ⟨?_, hapart.arePadded (hwords ▸ hrest)⟩, ?_⟩
        · rw [layOut_cons, ← hwords, PaddedWord.text, List.append_assoc]
          exact htext
        · refine List.forall_mem_cons.mpr ⟨⟨?_, ?_⟩, hapart.isPlain⟩
          · exact fun c hc => List.mem_takeWhile_imp hc
          · intro c hc
            simpa using List.mem_takeWhile_imp hc
        · exact List.forall_mem_cons.mpr ⟨hword, hnonempty⟩

/-- A text around blanks is made of padded words, one of which has these blanks in front. -/
theorem exists_layOut_around {front pad rest : Text}
    (hfront : ∀ c ∈ front.getLast?, isBlank c = false)
    (hpad : ∀ c ∈ pad, isBlank c = true) (hne : pad ≠ []) (hrest : rest ≠ [])
    (hhead : ∀ c ∈ rest.head?, isBlank c = false) (hlast : ∀ c ∈ rest.getLast?, isBlank c = false) :
    ∃ before word back, front = layOut before ∧ rest = word ++ layOut back ∧
      AreApart (before ++ ⟨pad, word⟩ :: back) ∧
        ∀ p ∈ before ++ ⟨pad, word⟩ :: back, p.word ≠ [] := by
  obtain ⟨before, rfl, hbefore, hbeforeNe⟩ := exists_layOut hfront
  obtain ⟨words, rfl, hwords, hwordsNe⟩ := exists_layOut hlast
  cases words with
  | nil => exact absurd rfl hrest
  | cons first back =>
      obtain ⟨hfirst, hback⟩ := List.forall_mem_cons.mp hwords.isPlain
      obtain ⟨hfirstNe, hbackNe⟩ := List.forall_mem_cons.mp hwordsNe
      have hgap : first.pad = [] := by
        cases hgap : first.pad with
        | nil => rfl
        | cons c gap =>
            have hc := hhead c (by simp [PaddedWord.text, hgap])
            rw [hfirst.pad c (by simp [hgap])] at hc
            cases hc
      have hpadded : ArePadded (⟨pad, first.word⟩ :: back) := by
        refine ⟨List.forall_mem_cons.mpr ⟨⟨hpad, hfirst.word⟩, hback⟩,
          List.forall_mem_cons.mpr ⟨?_, hwords.padded.head⟩⟩
        obtain ⟨c, pad, rfl⟩ := List.exists_cons_of_ne_nil hne
        rintro d ⟨⟩
        exact partsSettings_of_isBlank (hpad c (by simp))
      refine ⟨before, first.word, back, rfl, ?_, hbefore.append hpadded,
        List.forall_mem_append.mpr ⟨hbeforeNe, List.forall_mem_cons.mpr ⟨hfirstNe, hbackNe⟩⟩⟩
      rw [layOut_cons, PaddedWord.text, hgap, List.nil_append]

/-! ## Blanks at the end -/

section

variable {words : List PaddedWord}

theorem isBlank_layOut (hplain : ∀ p ∈ words, p.IsPlain) (h : ∀ p ∈ words, p.word = []) :
    ∀ c ∈ layOut words, isBlank c = true := by
  intro c hc
  obtain ⟨p, hp, hc⟩ := List.mem_flatMap.mp hc
  rw [PaddedWord.text, h p hp, List.append_nil] at hc
  exact (hplain p hp).pad c hc

theorem trimRight_layOut_of_nil (hplain : ∀ p ∈ words, p.IsPlain) (h : ∀ p ∈ words, p.word = []) :
    trimRight (layOut words) = [] :=
  List.rdropWhile_eq_nil_iff.mpr (isBlank_layOut hplain h)

theorem trimRight_layOut_ne_nil (hplain : ∀ p ∈ words, p.IsPlain) (h : ∃ p ∈ words, p.word ≠ []) :
    trimRight (layOut words) ≠ [] := by
  obtain ⟨p, hp, hne⟩ := h
  obtain ⟨c, word, hword⟩ := List.exists_cons_of_ne_nil hne
  intro hnil
  have hmem : c ∈ p.text := List.mem_append_right _ (by simp [hword])
  have hblank := List.rdropWhile_eq_nil_iff.mp hnil c (List.mem_flatMap.mpr ⟨p, hp, hmem⟩)
  rw [(hplain p hp).word c (by simp [hword])] at hblank
  cases hblank

/-- Blanks go from the end of what follows a word as long as there is something else. -/
theorem trimRight_layOut_cons {p : PaddedWord} (hplain : ∀ q ∈ p :: words, q.IsPlain)
    (h : ∃ q ∈ p :: words, q.word ≠ []) :
    trimRight (layOut (p :: words)) = p.text ++ trimRight (layOut words) := by
  obtain ⟨hp, hwords⟩ := List.forall_mem_cons.mp hplain
  rw [layOut_cons]
  by_cases hsome : ∃ q ∈ words, q.word ≠ []
  · exact trimRight_append (trimRight_layOut_ne_nil hwords hsome) p.text
  · push Not at hsome
    have hne : p.word ≠ [] := by
      obtain ⟨q, hq, hne⟩ := h
      rcases List.mem_cons.mp hq with rfl | hq
      · exact hne
      · exact absurd (hsome q hq) hne
    have hlast : ∀ c ∈ p.text.getLast?, isBlank c = false := by
      rw [PaddedWord.text, List.getLast?_append_of_ne_nil _ hne]
      exact fun c hc => hp.word c (List.mem_of_mem_getLast? hc)
    rw [trimRight_append_of_blank _ (isBlank_layOut hwords hsome),
      trimRight_layOut_of_nil hwords hsome, trimRight_eq_self hlast, List.append_nil]

/-- Blanks in front of the first word go. -/
theorem trim_layOut_cons {p : PaddedWord} (hplain : ∀ q ∈ p :: words, q.IsPlain) (h : p.word ≠ []) :
    trim (layOut (p :: words)) = p.word ++ trimRight (layOut words) := by
  obtain ⟨hp, hwords⟩ := List.forall_mem_cons.mp hplain
  have hright := trimRight_layOut_cons hplain ⟨p, by simp, h⟩
  obtain ⟨c, word, hword⟩ := List.exists_cons_of_ne_nil h
  have hleft : trimLeft (p.word ++ trimRight (layOut words)) =
      p.word ++ trimRight (layOut words) := by
    rw [hword, List.cons_append, trimLeft, List.dropWhile_cons_of_neg]
    simpa using hp.word c (by simp [hword])
  rw [← trim_trimRight, hright, PaddedWord.text, List.append_assoc, trim_blank_append hp.pad, trim,
    hleft]
  refine trimRight_eq_self fun d hd => ?_
  rw [List.getLast?_append] at hd
  rcases Option.or_eq_some_iff.mp hd with hd | ⟨-, hd⟩
  · exact getLast?_trimRight d hd
  · exact hp.word d (List.mem_of_mem_getLast? hd)

end

/-! ## Passes -/

/-- A word behind a pass that takes something out of each word for itself. Of the blanks in front of
a word it leaves what `cut` does, if the word begins with something that is taken out. -/
def PaddedWord.passed (begins : Text → Bool) (cut pass : Text → Text) (p : PaddedWord) :
    PaddedWord :=
  ⟨if begins p.word then cut p.pad else p.pad, pass p.word⟩

/-- What a pass does to a word behind a character, and to a text in front of which the word stands;
some words may have to fit. -/
structure ActsOnWords (pass : Option Char → Text → Text) (begins : Text → Bool) (cut : Text → Text)
    (fits : PaddedWord → Prop) : Prop where
  nil : ∀ previous, pass previous [] = []
  congr : ∀ {previous other} {text : Text}, startsWord previous = startsWord other ∨
    (∀ c ∈ text.head?, partsSettings c = true) → pass previous text = pass other text
  append : ∀ {p : PaddedWord}, p.IsPlain → fits p → ∀ {back : Text},
    (∀ c ∈ back.head?, partsSettings c = true) → ∀ previous,
      pass previous (p.text ++ back) =
        pass previous p.text ++ pass (p.text.getLast?.or previous) back
  pad : ∀ {p : PaddedWord}, p.IsPlain → fits p → ∀ previous,
    pass previous p.text =
      (if begins p.word then cut p.pad else p.pad) ++ pass (p.pad.getLast?.or previous) p.word

theorem ActsOnWords.layOut {pass : Option Char → Text → Text} {begins : Text → Bool}
    {cut : Text → Text} {fits : PaddedWord → Prop} (hpass : ActsOnWords pass begins cut fits)
    {words : List PaddedWord} (h : AreApart words) (hfits : ∀ p ∈ words, fits p)
    {previous : Option Char}
    (hprevious : startsWord previous = true ∨
      ∀ p ∈ words.head?, ∀ c ∈ p.text.head?, partsSettings c = true) :
    pass previous (layOut words) = layOut (words.map (·.passed begins cut (pass none))) := by
  induction words generalizing previous with
  | nil => exact hpass.nil previous
  | cons p words ih =>
      have hplain := h.isPlain p (by simp)
      have hpadded : ArePadded words := h.padded
      obtain ⟨hfit, hothers⟩ := List.forall_mem_cons.mp hfits
      have hrest : pass (p.text.getLast?.or previous) (SchemaMigration.layOut words) =
          SchemaMigration.layOut (words.map (·.passed begins cut (pass none))) :=
        ih hpadded.areApart hothers (.inr fun q hq => hpadded.head q (List.mem_of_mem_head? hq))
      have hsame : pass (p.pad.getLast?.or previous) p.word = pass none p.word := by
        refine hpass.congr ?_
        -- a word begins here, behind blanks or at the beginning, or else no setting does
        rcases List.eq_nil_or_concat p.pad with hpad | ⟨front, c, hpad⟩
        · rw [hpad]
          refine hprevious.imp_right fun hhead => ?_
          have htext : p.text = p.word := by rw [PaddedWord.text, hpad, List.nil_append]
          exact htext ▸ hhead p rfl
        · have hc : isBlank c = true := hplain.pad c (by simp [hpad])
          rw [hpad, List.concat_eq_append, List.getLast?_concat, Option.some_or,
            startsWord_of_isBlank hc]
          exact .inl rfl
      rw [layOut_cons, hpass.append hplain hfit hpadded.head?_layOut, hrest, hpass.pad hplain hfit,
        hsame]
      rfl

/-! ## Settings with one space -/

/-- Blanks without a space at the end. -/
def cutSpace (pad : Text) : Text := if pad.getLast? = some ' ' then pad.dropLast else pad

/-- What is left of a text behind a character if settings are taken out. -/
def withoutSettingFrom (keyword : Text) (inside : Char → Bool) (previous : Option Char)
    (text : Text) : Text :=
  replaceMatchesFrom (removedSetting? keyword inside) previous 0 text

theorem stopsAt_class? {stop : Char} {inside : Char → Bool} (h : inside stop = false) :
    StopsAt stop (class? inside) where
  append text rest := by
    cases text with
    | nil => simp [class?, h]
    | cons c text =>
        simp only [List.cons_append, class?]
        rw [dropWhile_append_stop h]
        split <;> rfl
  suffix text rest hrest := by
    cases text with
    | nil => cases hrest
    | cons c text =>
        simp only [class?, Option.ite_none_right_eq_some, Option.some.injEq] at hrest
        exact hrest.2 ▸ (List.dropWhile_suffix _).trans (List.suffix_cons c text)

section Setting

variable {keyword : Text} {inside : Char → Bool}

theorem withoutSetting_eq (text : Text) :
    withoutSetting keyword inside text = withoutSettingFrom keyword inside none text := rfl

theorem cutSpace_cons_cons (c d : Char) (pad : Text) :
    cutSpace (c :: d :: pad) = c :: cutSpace (d :: pad) := by
  simp only [cutSpace, List.getLast?_cons_cons, List.dropLast_cons_cons]
  split <;> rfl

theorem withoutSettingFrom_nil (previous : Option Char) :
    withoutSettingFrom keyword inside previous [] = [] := rfl

theorem withoutSettingFrom_of_none {previous : Option Char} {c : Char} {text : Text}
    (h : spacedSetting? keyword inside previous (c :: text) = none) :
    withoutSettingFrom keyword inside previous (c :: text) =
      c :: withoutSettingFrom keyword inside (some c) text :=
  replaceMatchesFrom_of_none (by rw [removedSetting?, h]; rfl)

theorem withoutSettingFrom_of_some {previous : Option Char} {used rest : Text} (hne : used ≠ [])
    (h : spacedSetting? keyword inside previous (used ++ rest) = some rest) :
    withoutSettingFrom keyword inside previous (used ++ rest) =
      withoutSettingFrom keyword inside used.getLast? rest := by
  have hremoved : removedSetting? keyword inside previous (used ++ rest) = some ([], rest) := by
    rw [removedSetting?, h]
    rfl
  exact replaceMatchesFrom_of_some hne hremoved

theorem spacedSetting?_of_ne {c : Char} (hc : c ≠ ' ') (previous : Option Char) (text : Text) :
    spacedSetting? keyword inside previous (c :: text) =
      if startsWord previous then setting? keyword inside (c :: text) else none := by
  rw [spacedSetting?]
  simpa using hc

theorem spacedSetting?_of_head? {text : Text} (h : ∀ c ∈ text.head?, isBlank c = false)
    (previous : Option Char) : spacedSetting? keyword inside previous text =
      if startsWord previous then setting? keyword inside text else none := by
  cases text with
  | nil => rfl
  | cons c text =>
      refine spacedSetting?_of_ne ?_ previous text
      rintro rfl
      exact absurd (h ' ' rfl) (by decide)

/-- A space in front of a setting goes with it. -/
theorem withoutSettingFrom_space {word rest : Text} (hword : ∀ c ∈ word.head?, isBlank c = false)
    (h : setting? keyword inside word = some rest) (previous : Option Char) :
    withoutSettingFrom keyword inside previous (' ' :: word) =
      withoutSettingFrom keyword inside (some ' ') word := by
  obtain ⟨used, rfl, hused⟩ := exists_of_setting? h
  have hne : used ≠ [] := by
    rintro rfl
    simp at hused
  have hbehind : spacedSetting? keyword inside (some ' ') (used ++ rest) = some rest := by
    have hblank : isBlank ' ' = true := by decide
    rw [spacedSetting?_of_head? hword, startsWord_of_isBlank hblank, if_pos rfl, h]
  have hwhole : spacedSetting? keyword inside previous ((' ' :: used) ++ rest) = some rest := h
  rw [withoutSettingFrom_of_some hne hbehind, ← List.cons_append,
    withoutSettingFrom_of_some (List.cons_ne_nil ' ' used) hwhole,
    ← List.singleton_append, List.getLast?_append_of_ne_nil _ hne]

/-- Settings end in front of characters that are no part of one. -/
def StopsApart (keyword : Text) (inside : Char → Bool) : Prop :=
  ∀ c, partsSettings c = true → StopsAt c (setting? keyword inside)

/-- A setting ends there if neither its keyword nor its value has such a character. -/
theorem stopsApart_of
    (hkeyword : ∀ letter ∈ keyword, ∀ d ∈ spellings letter, partsSettings d = false)
    (hinside : ∀ c, partsSettings c = true → inside c = false) : StopsApart keyword inside :=
  fun c hc => (stopsAt_keyword? (spells_of_partsSettings hkeyword hc)).bind
    (stopsAt_class? (hinside c hc))

variable (hstops : StopsApart keyword inside)

include hstops

theorem setting?_of_partsSettings {c : Char} (hc : partsSettings c = true) (text : Text) :
    setting? keyword inside (c :: text) = none := by
  have hnil : setting? keyword inside [] = none := by
    cases keyword <;> rfl
  have hstop := (hstops c hc).append [] text
  rwa [hnil] at hstop

/-- What is in front of a text only matters for whether a word may begin there, and if one does. -/
theorem withoutSettingFrom_congr {previous other : Option Char} {text : Text}
    (h : startsWord previous = startsWord other ∨ ∀ c ∈ text.head?, partsSettings c = true) :
    withoutSettingFrom keyword inside previous text =
      withoutSettingFrom keyword inside other text := by
  cases text with
  | nil => rfl
  | cons c text =>
      have hsame : spacedSetting? keyword inside previous (c :: text) =
          spacedSetting? keyword inside other (c :: text) := by
        by_cases hc : c = ' '
        · rw [hc]
          rfl
        · rw [spacedSetting?_of_ne hc, spacedSetting?_of_ne hc]
          rcases h with heq | hhead
          · rw [heq]
          · rw [setting?_of_partsSettings hstops (hhead c rfl), ite_self, ite_self]
      simp only [withoutSettingFrom, replaceMatchesFrom, removedSetting?, hsame]

/-- A text is parted in front of such a character. -/
theorem withoutSettingFrom_append {front back : Text}
    (hback : ∀ c ∈ back.head?, partsSettings c = true)
    (previous : Option Char) : withoutSettingFrom keyword inside previous (front ++ back) =
      withoutSettingFrom keyword inside previous front ++
        withoutSettingFrom keyword inside (front.getLast?.or previous) back := by
  cases back with
  | nil => rw [List.append_nil, withoutSettingFrom_nil, List.append_nil]
  | cons stop back =>
      have hstop := (hstops stop (hback stop rfl)).append
      refine replaceMatchesFrom_append (fun other text hne _ => ?_)
        (fun other text found hfound => ?_) previous
      · obtain ⟨c, text, rfl⟩ := List.exists_cons_of_ne_nil hne
        have hspaced : spacedSetting? keyword inside other (c :: text ++ stop :: back) =
            (spacedSetting? keyword inside other (c :: text)).map (· ++ stop :: back) := by
          by_cases hc : c = ' '
          · rw [hc]
            exact hstop text back
          · rw [List.cons_append, spacedSetting?_of_ne hc, spacedSetting?_of_ne hc,
              ← List.cons_append, hstop (c :: text) back]
            split <;> rfl
        rw [removedSetting?, removedSetting?, hspaced, Option.map_map, Option.map_map]
        rfl
      · obtain ⟨rest, hrest, rfl⟩ := Option.map_eq_some_iff.mp hfound
        obtain ⟨used, rfl, hused⟩ := exists_of_spacedSetting? hrest
        cases used with
        | nil => simp at hused
        | cons c used => exact List.suffix_append used rest

theorem spacedSetting?_of_isBlank {c : Char} (hc : isBlank c = true) {text : Text}
    (h : c = ' ' → setting? keyword inside text = none) (previous : Option Char) :
    spacedSetting? keyword inside previous (c :: text) = none := by
  by_cases hspace : c = ' '
  · subst hspace
    exact h rfl
  · rw [spacedSetting?_of_ne hspace,
      setting?_of_partsSettings hstops (partsSettings_of_isBlank hc), ite_self]

/-- Of blanks in front of a setting the last one goes if it is a space. -/
theorem withoutSettingFrom_pad {pad word : Text} (hpad : ∀ c ∈ pad, isBlank c = true)
    (hword : ∀ c ∈ word.head?, isBlank c = false) (previous : Option Char) :
    withoutSettingFrom keyword inside previous (pad ++ word) =
      (if (setting? keyword inside word).isSome then cutSpace pad else pad) ++
        withoutSettingFrom keyword inside (pad.getLast?.or previous) word := by
  induction pad generalizing previous with
  | nil => simp [cutSpace]
  | cons c pad ih =>
      obtain ⟨hc, hrest⟩ := List.forall_mem_cons.mp hpad
      cases pad with
      | cons d pad =>
          have hd : isBlank d = true := hrest d (by simp)
          have hnone : spacedSetting? keyword inside previous (c :: ((d :: pad) ++ word)) = none :=
            spacedSetting?_of_isBlank hstops hc
              (fun _ => setting?_of_partsSettings hstops (partsSettings_of_isBlank hd) _) previous
          rw [List.cons_append, withoutSettingFrom_of_none hnone, ih hrest (some c),
            cutSpace_cons_cons, List.getLast?_cons_cons, List.getLast?_cons]
          split <;> rfl
      | nil =>
          cases hsetting : setting? keyword inside word with
          | none =>
              have hnone := spacedSetting?_of_isBlank hstops hc (fun _ => hsetting) previous
              rw [List.cons_append, List.nil_append, withoutSettingFrom_of_none hnone]
              rfl
          | some rest =>
              by_cases hspace : c = ' '
              · subst hspace
                exact withoutSettingFrom_space hword hsetting previous
              · have hnone : spacedSetting? keyword inside previous (c :: word) = none :=
                  spacedSetting?_of_isBlank hstops hc (fun heq => absurd heq hspace) previous
                have hcut : cutSpace [c] = [c] := by simp [cutSpace, hspace]
                rw [List.cons_append, List.nil_append, withoutSettingFrom_of_none hnone, hcut,
                  ite_self]
                rfl

/-- Settings are taken out of each word for itself. -/
theorem actsOnWords_withoutSetting : ActsOnWords (withoutSettingFrom keyword inside)
    (fun word => (setting? keyword inside word).isSome) cutSpace fun _ => True where
  nil := withoutSettingFrom_nil
  congr := withoutSettingFrom_congr hstops
  append _ _ _ hback previous := withoutSettingFrom_append hstops hback previous
  pad hplain _ previous := withoutSettingFrom_pad hstops hplain.pad
    (fun c hc => hplain.word c (List.mem_of_mem_head? hc)) previous

theorem withoutSetting_layOut {words : List PaddedWord} (h : AreApart words) :
    withoutSetting keyword inside (layOut words) =
      layOut (words.map (·.passed (fun word => (setting? keyword inside word).isSome) cutSpace
        (withoutSetting keyword inside))) :=
  (actsOnWords_withoutSetting hstops).layOut h (fun _ _ => trivial) (.inl rfl)

end Setting

/-! ## The row counter -/

/-- All blanks in front of a setting of the row counter go. -/
theorem withoutCounterFrom_pad {pad word : Text} (hpad : ∀ c ∈ pad, isBlank c = true)
    (hne : word ≠ []) (hword : ∀ c ∈ word.head?, isBlank c = false) (previous : Option Char) :
    withoutCounterFrom previous (pad ++ word) =
      (if (behindSetting? word).isSome then [] else pad) ++
        withoutCounterFrom (pad.getLast?.or previous) word := by
  induction pad generalizing previous with
  | nil => simp
  | cons c pad ih =>
      obtain ⟨hc, hrest⟩ := List.forall_mem_cons.mp hpad
      have htrim : trimLeft (pad ++ word) = word := by
        obtain ⟨d, word, rfl⟩ := List.exists_cons_of_ne_nil hne
        rw [trimLeft, List.dropWhile_append_of_pos hrest,
          List.dropWhile_cons_of_neg (by simp [hword d rfl])]
      have hbegins : (counterSetting? (some c) (pad ++ word)).isSome =
          (behindSetting? word).isSome := by
        have hat : atWord? (some c) (pad ++ word) = some word := by
          obtain ⟨d, text, htext⟩ := List.exists_cons_of_ne_nil
            (List.append_ne_nil_of_right_ne_nil pad hne)
          rw [htext, atWord?, startsWord_of_isBlank hc, Bool.or_true, if_pos rfl, ← htext, htrim]
        rw [counterSetting?_eq, hat, Option.bind_some, Option.isSome_map]
      rw [List.cons_append, withoutCounterFrom_cons_of_isBlank hc, hbegins, ih hrest (some c),
        List.getLast?_cons]
      split
      · cases pad.getLast? <;> rfl
      · cases pad.getLast? <;> rfl

/-- What is recognised where no blanks stand in front. -/
theorem counterSetting?_of_head? {text : Text} (h : ∀ c ∈ text.head?, isBlank c = false)
    (previous : Option Char) : counterSetting? previous text =
      if startsWord previous then (behindSetting? text).map fun rest => ([], rest) else none := by
  cases text with
  | nil => cases hstarts : startsWord previous <;> rfl
  | cons c text =>
      have hc := h c rfl
      have htrim : trimLeft (c :: text) = c :: text := List.dropWhile_cons_of_neg (by simp [hc])
      rw [counterSetting?_eq, atWord?, hc, Bool.false_or, htrim]
      split <;> rfl

/-- What is in front does not matter where no setting begins. -/
theorem withoutCounterFrom_congr_of_partsSettings {previous other : Option Char} {text : Text}
    (h : ∀ c ∈ text.head?, partsSettings c = true) :
    withoutCounterFrom previous text = withoutCounterFrom other text := by
  cases text with
  | nil => rfl
  | cons c text =>
      have hc := h c rfl
      have hsame : counterSetting? previous (c :: text) = counterSetting? other (c :: text) := by
        cases hblank : isBlank c with
        | true =>
            rw [counterSetting?_cons_of_isBlank hblank, counterSetting?_cons_of_isBlank hblank]
        | false =>
            have hnone : behindSetting? (c :: text) = none :=
              behindSetting?_cons (endsSetting_of_partsSettings hc)
            have hhead : ∀ d ∈ (c :: text).head?, isBlank d = false := by
              rintro d ⟨⟩
              exact hblank
            rw [counterSetting?_of_head? hhead, counterSetting?_of_head? hhead, hnone,
              Option.map_none, ite_self, ite_self]
      simp only [withoutCounterFrom, replaceMatchesFrom, hsame]

/-- The row counter is taken out of each word for itself. -/
theorem actsOnWords_withoutCounter : ActsOnWords withoutCounterFrom
    (fun word => (behindSetting? word).isSome) (fun _ => []) (·.word ≠ []) where
  nil := withoutCounterFrom_nil
  congr {previous other text} h := by
    rcases h with heq | hhead
    · exact withoutCounterFrom_congr heq text
    · exact withoutCounterFrom_congr_of_partsSettings hhead
  append {p} hplain hne back hback previous := by
    cases back with
    | nil => rw [List.append_nil, withoutCounterFrom_nil, List.append_nil]
    | cons stop back =>
        have hstop := endsSetting_of_partsSettings (hback stop rfl)
        refine withoutCounterFrom_append hstop (.inr ?_) previous
        intro c hc
        rw [PaddedWord.text, List.getLast?_append_of_ne_nil _ hne] at hc
        exact hplain.word c (List.mem_of_mem_getLast? hc)
  pad hplain hne previous := withoutCounterFrom_pad hplain.pad hne
    (fun c hc => hplain.word c (List.mem_of_mem_head? hc)) previous

theorem withoutCounter_layOut {words : List PaddedWord} (h : AreApart words)
    (hne : ∀ p ∈ words, p.word ≠ []) : withoutCounter (layOut words) =
      layOut (words.map (·.passed (fun word => (behindSetting? word).isSome) (fun _ => [])
        withoutCounter)) :=
  actsOnWords_withoutCounter.layOut h hne (.inl rfl)

theorem digits?_eq_class? : digits? = class? isDigit := by
  funext text
  cases text <;> rfl

theorem setting?_eq_behindSetting? (text : Text) :
    setting? "AUTO_INCREMENT=" isDigit text = behindSetting? text := by
  rw [behindSetting?, digits?_eq_class?]
  rfl

/-- Recognisers that find the same from each place of a text on replace the same in it. -/
theorem replaceMatchesFrom_congr {recognise other : Option Char → Text → Option (Text × Text)}
    {text : Text} (h : ∀ previous, ∀ rest, rest <:+ text →
      recognise previous rest = other previous rest) (previous : Option Char) (skipped : Nat) :
    replaceMatchesFrom recognise previous skipped text =
      replaceMatchesFrom other previous skipped text := by
  induction text generalizing previous skipped with
  | nil => rw [replaceMatchesFrom, replaceMatchesFrom]
  | cons c text ih =>
      have hrest := ih fun previous rest hrest =>
        h previous rest (hrest.trans (List.suffix_cons c text))
      cases skipped with
      | succ skipped => rw [replaceMatchesFrom, replaceMatchesFrom, hrest]
      | zero =>
          rw [replaceMatchesFrom, replaceMatchesFrom, h previous _ List.suffix_rfl]
          split <;> rw [hrest]

/-- Where there are no blanks, both passes for the row counter take out the same. -/
theorem withoutSetting_eq_withoutCounter {word : Text} (h : ∀ c ∈ word, isBlank c = false) :
    withoutSetting "AUTO_INCREMENT=" isDigit word = withoutCounter word := by
  refine replaceMatchesFrom_congr (fun previous rest hrest => ?_) none 0
  have hplain : ∀ c ∈ rest.head?, isBlank c = false :=
    fun c hc => h c (hrest.subset (List.mem_of_mem_head? hc))
  rw [removedSetting?, spacedSetting?_of_head? hplain, setting?_eq_behindSetting?,
    counterSetting?_of_head? hplain]
  split <;> rfl

end SchemaMigration
