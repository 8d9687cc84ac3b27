import Mathlib.Data.List.Forall2
import SchemaMigration.Proofs.Text.LetterCase

/-!
# Phrases

What recognisers of keywords accept, told as the shape of the text in front of the rest: a word
that spells a keyword letter by letter, or a phrase of several with blanks between them. A phrase
without its layout and in upper case spells the same keywords.

## Main Definitions

* `IsSpelling`, `keyword?_eq_some` - the words that spell a keyword
* `IsGap`, `blanks?_eq_some` - the blanks between two words
* `IsWord`, `word?_eq_some` - a word as it stands between blanks
* `upToClosing?_eq_some` - a text in parentheses that has no other closing one
* `IsPhrase`, `keywords?_eq_some` - the texts that spell several keywords
* `IsPhrase.upper_squash` - the layout and the letter case of a phrase do not matter
-/

namespace SchemaMigration.Text

/-! ## Spellings -/

/-- A keyword is written in capitals, at least one. -/
def IsKeyword (keyword : Text) : Prop :=
  keyword ≠ [] ∧ ∀ letter ∈ keyword, letter ∈ "ABCDEFGHIJKLMNOPQRSTUVWXYZ".toList

instance (keyword : Text) : Decidable (IsKeyword keyword) :=
  inferInstanceAs (Decidable (_ ∧ _))

/-- A word that spells a keyword, letter by letter. -/
def IsSpelling (keyword word : Text) : Prop :=
  List.Forall₂ (fun letter c => spells letter c = true) keyword word

theorem keyword?_eq_some {keyword text rest : Text} :
    keyword? keyword text = some rest ↔ ∃ word, IsSpelling keyword word ∧ text = word ++ rest := by
  induction keyword generalizing text with
  | nil =>
      constructor
      · exact fun h => ⟨[], .nil, Option.some.inj h⟩
      · rintro ⟨word, hword, rfl⟩
        cases hword
        rfl
  | cons letter keyword ih =>
      constructor
      · intro h
        cases text with
        | nil => cases h
        | cons c text =>
            rw [keyword?, Option.ite_none_right_eq_some] at h
            obtain ⟨word, hword, rfl⟩ := ih.mp h.2
            exact ⟨c :: word, .cons h.1 hword, rfl⟩
      · rintro ⟨word, hword, rfl⟩
        cases hword with
        | cons hletter hword =>
            rw [List.cons_append, keyword?, if_pos hletter]
            exact ih.mpr ⟨_, hword, rfl⟩

/-- Of keywords that are told apart at most one stands in front. -/
theorem anyKeyword?_eq_some {keywords : List Text}
    (hapart : keywords.Pairwise fun first second => tellApart second first = true)
    {text rest : Text} : anyKeyword? keywords text = some rest ↔
      ∃ keyword ∈ keywords, keyword? keyword text = some rest := by
  induction hapart with
  | nil => simp [anyKeyword?]
  | @cons keyword keywords hfirst hmore ih =>
      rw [anyKeyword?, List.findSome?_cons]
      cases hkeyword : keyword? keyword text with
      | some behind =>
          constructor
          · exact fun h => ⟨keyword, by simp, hkeyword.trans h⟩
          · rintro ⟨other, hother, hread⟩
            rcases List.mem_cons.mp hother with rfl | hother
            · exact hkeyword.symm.trans hread
            · rw [keyword?_eq_none_of_tellApart (hfirst other hother) hread] at hkeyword
              cases hkeyword
      | none =>
          rw [← anyKeyword?, ih]
          simp [hkeyword]

theorem isSpelling_self (keyword : Text) : IsSpelling keyword keyword :=
  List.forall₂_same.mpr fun _ _ => by simp [spells]

section

variable {keyword word : Text}

theorem IsSpelling.ne_nil (h : IsSpelling keyword word) (hkeyword : IsKeyword keyword) :
    word ≠ [] := by
  rintro rfl
  cases h
  exact hkeyword.1 rfl

/-- What a capital is spelled by is a word character, and its upper case spells the capital too. -/
theorem spelled_by {letter c : Char} (hletter : letter ∈ "ABCDEFGHIJKLMNOPQRSTUVWXYZ".toList)
    (h : spells letter c = true) :
    isWordCharacter c = true ∧ ∃ d, upperCharacter c = [d] ∧ spells letter d = true := by
  have htable : "ABCDEFGHIJKLMNOPQRSTUVWXYZ".toList.all fun letter =>
      (spellings letter).all fun c => isWordCharacter c && (upperCharacter c).length == 1 &&
        (upperCharacter c).all (spells letter) := by
    decide +kernel
  have hc := List.all_eq_true.mp (List.all_eq_true.mp htable letter hletter) c (mem_spellings.mpr h)
  simp only [Bool.and_eq_true, beq_iff_eq] at hc
  obtain ⟨⟨hword, hlength⟩, hupper⟩ := hc
  obtain ⟨d, hd⟩ := List.length_eq_one_iff.mp hlength
  exact ⟨hword, d, hd, by simpa [hd] using hupper⟩

theorem IsSpelling.isWordCharacter (h : IsSpelling keyword word) (hkeyword : IsKeyword keyword) :
    ∀ c ∈ word, Text.isWordCharacter c = true := by
  have hletters := hkeyword.2
  clear hkeyword
  induction h with
  | nil => simp
  | cons hletter _ ih =>
      obtain ⟨hfirst, hmore⟩ := List.forall_mem_cons.mp hletters
      exact List.forall_mem_cons.mpr ⟨(spelled_by hfirst hletter).1, ih hmore⟩

theorem isBlank_of_isWordCharacter {c : Char} (hc : isWordCharacter c = true) :
    isBlank c = false := by
  rw [Bool.eq_false_iff]
  intro hblank
  rw [isWordCharacter_of_isBlank hblank] at hc
  cases hc

theorem IsSpelling.isBlank (h : IsSpelling keyword word) (hkeyword : IsKeyword keyword) :
    ∀ c ∈ word, isBlank c = false :=
  fun c hc => isBlank_of_isWordCharacter (h.isWordCharacter hkeyword c hc)

/-- Letter case does not matter. -/
theorem IsSpelling.upper (h : IsSpelling keyword word) (hkeyword : IsKeyword keyword) :
    IsSpelling keyword (upper word) := by
  have hletters := hkeyword.2
  clear hkeyword
  induction h with
  | nil => exact .nil
  | @cons letter c keyword word hletter _ ih =>
      obtain ⟨hfirst, hmore⟩ := List.forall_mem_cons.mp hletters
      obtain ⟨-, d, hd, hspells⟩ := spelled_by hfirst hletter
      have hcons : Text.upper (c :: word) = upperCharacter c ++ Text.upper word :=
        List.flatMap_cons
      rw [hcons, hd]
      exact .cons hspells (ih hmore)

end

/-! ## Gaps -/

/-- One or more blanks. -/
structure IsGap (gap : Text) : Prop where
  ne_nil : gap ≠ []
  isBlank : ∀ c ∈ gap, isBlank c = true

theorem isGap_space : IsGap [' '] := ⟨by simp, by decide⟩

/-- A text that ends with a gap ends with a blank. -/
theorem IsGap.getLast? {gap : Text} (h : IsGap gap) (front : Text) :
    ∃ c ∈ (front ++ gap).getLast?, Text.isBlank c = true := by
  rw [List.getLast?_append_of_ne_nil _ h.ne_nil]
  exact ⟨_, List.getLast_mem_getLast? h.ne_nil, h.isBlank _ (List.getLast_mem h.ne_nil)⟩

theorem blanks?_eq_some {text rest : Text} : blanks? text = some rest ↔
    ∃ gap, IsGap gap ∧ text = gap ++ rest ∧ ∀ c ∈ rest.head?, isBlank c = false := by
  constructor
  · intro h
    obtain ⟨c, behind, rfl, hc, rfl⟩ := exists_of_blanks? h
    refine ⟨c :: behind.takeWhile isBlank, ⟨by simp, ?_⟩, ?_, ?_⟩
    · exact List.forall_mem_cons.mpr ⟨hc, fun d hd => List.mem_takeWhile_imp hd⟩
    · rw [List.cons_append, trimLeft, List.takeWhile_append_dropWhile]
    · exact head?_trimLeft
  · rintro ⟨gap, hgap, rfl, hrest⟩
    obtain ⟨c, gap, rfl⟩ := List.exists_cons_of_ne_nil hgap.ne_nil
    have hdrop : trimLeft rest = rest := by
      cases rest with
      | nil => rfl
      | cons d rest => simp [trimLeft, hrest d rfl]
    rw [List.cons_append, blanks?, if_pos (hgap.isBlank c (by simp)), trimLeft,
      List.dropWhile_append_of_pos fun d hd => hgap.isBlank d (List.mem_cons_of_mem _ hd),
      ← trimLeft, hdrop]

/-! ## Words -/

/-- One or more characters that are no blanks. -/
structure IsWord (word : Text) : Prop where
  ne_nil : word ≠ []
  isBlank : ∀ c ∈ word, isBlank c = false

theorem IsWord.head? {word : Text} (h : IsWord word) (rest : Text) :
    ∀ c ∈ (word ++ rest).head?, Text.isBlank c = false := by
  rw [List.head?_append_of_ne_nil _ h.ne_nil]
  exact fun c hc => h.isBlank c (List.mem_of_mem_head? hc)

theorem IsWord.getLast? {word : Text} (h : IsWord word) (front : Text) :
    ∀ c ∈ (front ++ word).getLast?, Text.isBlank c = false := by
  rw [List.getLast?_append_of_ne_nil _ h.ne_nil]
  exact fun c hc => h.isBlank c (List.mem_of_getLast? hc)

/-- A word stays where it stands at the end of a text. -/
theorem IsWord.trim_append {front word : Text} (h : IsWord word) (hne : front ≠ [])
    (hlast : ∀ c ∈ front.getLast?, Text.isBlank c = false) :
    trim (front ++ word) = trim front ++ word := by
  rw [trim_eq_trimLeft (h.getLast? front), trim_eq_trimLeft hlast,
    trimLeft_append (trimLeft_ne_nil hne hlast)]

theorem IsSpelling.isWord {keyword word : Text} (h : IsSpelling keyword word)
    (hkeyword : IsKeyword keyword) : IsWord word :=
  ⟨h.ne_nil hkeyword, h.isBlank hkeyword⟩

theorem IsWord.upper {word : Text} (h : IsWord word) : IsWord (upper word) :=
  ⟨upper_ne_nil h.ne_nil, isBlank_of_mem_upper h.isBlank⟩

theorem word?_eq_some {text word rest : Text} : word? text = some (word, rest) ↔
    IsWord word ∧ text = word ++ rest ∧ ∀ c ∈ rest.head?, isBlank c = true := by
  have hread : word? text = some (word, rest) ↔ word ≠ [] ∧ (∀ c ∈ word, (! isBlank c) = true) ∧
      text = word ++ rest ∧ ∀ c ∈ rest.head?, (! isBlank c) = false := stretch_eq_some
  simp only [hread, Bool.not_eq_true', Bool.not_eq_false']
  constructor
  · rintro ⟨hne, hblank, hrest⟩
    exact ⟨⟨hne, hblank⟩, hrest⟩
  · rintro ⟨hword, hrest⟩
    exact ⟨hword.ne_nil, hword.isBlank, hrest⟩

/-- A word is read behind its keyword and an equals sign. -/
theorem assignment?_word {keyword word rest : Text} (hword : IsWord word)
    (hrest : ∀ c ∈ rest.head?, isBlank c = true) :
    assignment? keyword (keyword ++ '=' :: (word ++ rest)) = some (word, rest) := by
  have hread : keyword? keyword (keyword ++ '=' :: (word ++ rest)) = some ('=' :: (word ++ rest)) :=
    keyword?_eq_some.mpr ⟨keyword, isSpelling_self keyword, rfl⟩
  have hsign : after? "=" (trimLeft ('=' :: (word ++ rest))) = some (word ++ rest) := rfl
  have htrim : trimLeft (word ++ rest) = word ++ rest := by
    obtain ⟨c, word, rfl⟩ := List.exists_cons_of_ne_nil hword.ne_nil
    simp [trimLeft, hword.isBlank c (by simp)]
  simp only [assignment?, hread, hsign, htrim, Option.bind_eq_bind, Option.bind_some]
  exact word?_eq_some.mpr ⟨hword, rfl, hrest⟩

/-! ## Parentheses -/

/-- What is read through the first closing parenthesis. -/
theorem upToClosing?_eq_some {text found rest : Text} : upToClosing? text = some (found, rest) ↔
    ∃ inner, ')' ∉ inner ∧ found = '(' :: inner ++ [')'] ∧ text = found ++ rest := by
  constructor
  · intro h
    unfold upToClosing? at h
    split at h
    · rename_i inside
      have hwhole := List.takeWhile_append_dropWhile (p := (· != ')')) (l := inside)
      split at h
      · cases h
      · rename_i close behind hclose
        obtain ⟨rfl, rfl⟩ := Prod.mk.inj (Option.some.inj h)
        rw [hclose] at hwhole
        obtain rfl : close = ')' := by simpa using of_dropWhile_eq_cons hclose
        refine ⟨inside.takeWhile (· != ')'), fun hmem => ?_, rfl, ?_⟩
        · simpa using List.mem_takeWhile_imp hmem
        · conv_lhs => rw [← hwhole]
          simp
    · cases h
  · rintro ⟨inner, hinner, rfl, rfl⟩
    have hinside : ∀ c ∈ inner, (c != ')') = true := fun c hc => by
      simpa using fun heq : c = ')' => hinner (heq ▸ hc)
    have htext : '(' :: inner ++ [')'] ++ rest = '(' :: (inner ++ ')' :: rest) := by simp
    have hdrop : (inner ++ ')' :: rest).dropWhile (· != ')') = ')' :: rest := by
      rw [List.dropWhile_append_of_pos hinside]
      simp
    have htake : (inner ++ ')' :: rest).takeWhile (· != ')') = inner :=
      takeWhile_append_of_ends hinside (by simp)
    rw [htext, upToClosing?, hdrop]
    simp [htake]

/-! ## Phrases -/

/-- A text that spells keywords, with blanks between each two of them. -/
inductive IsPhrase : (keywords : List Text) → (text : Text) → Prop
  | single {keyword word : Text} (hword : IsSpelling keyword word) : IsPhrase [keyword] word
  | cons {keyword word gap next text : Text} {keywords : List Text}
      (hword : IsSpelling keyword word) (hgap : IsGap gap)
      (hmore : IsPhrase (next :: keywords) text) :
      IsPhrase (keyword :: next :: keywords) (word ++ (gap ++ text))

section

variable {keywords : List Text} {text : Text}

theorem IsPhrase.ne_nil (h : IsPhrase keywords text)
    (hkeywords : ∀ keyword ∈ keywords, IsKeyword keyword) : text ≠ [] := by
  cases h with
  | single hword => exact hword.ne_nil (hkeywords _ (by simp))
  | cons hword _ _ =>
      exact List.append_ne_nil_of_left_ne_nil (hword.ne_nil (hkeywords _ (by simp))) _

theorem IsPhrase.head? (h : IsPhrase keywords text)
    (hkeywords : ∀ keyword ∈ keywords, IsKeyword keyword) (rest : Text) :
    ∀ c ∈ (text ++ rest).head?, isBlank c = false := by
  have hfirst {keyword word : Text} (hword : IsSpelling keyword word)
      (hkeyword : IsKeyword keyword) (behind : Text) :
      ∀ c ∈ (word ++ behind).head?, isBlank c = false := by
    rw [List.head?_append_of_ne_nil _ (hword.ne_nil hkeyword)]
    exact fun c hc => hword.isBlank hkeyword c (List.mem_of_mem_head? hc)
  cases h with
  | single hword => exact hfirst hword (hkeywords _ (by simp)) rest
  | cons hword _ _ =>
      rw [List.append_assoc]
      exact hfirst hword (hkeywords _ (by simp)) _

theorem IsPhrase.getLast? (h : IsPhrase keywords text)
    (hkeywords : ∀ keyword ∈ keywords, IsKeyword keyword) :
    ∀ c ∈ text.getLast?, Text.isWordCharacter c = true := by
  induction h with
  | single hword =>
      exact fun c hc => hword.isWordCharacter (hkeywords _ (by simp)) c (List.mem_of_getLast? hc)
  | cons hword hgap hmore ih =>
      obtain ⟨-, hbehind⟩ := List.forall_mem_cons.mp hkeywords
      rw [← List.append_assoc, List.getLast?_append_of_ne_nil _ (hmore.ne_nil hbehind)]
      exact ih hbehind

theorem keywords?_cons_cons (keyword next : Text) (keywords : List Text) :
    keywords? (keyword :: next :: keywords) = fun text =>
      ((keyword? keyword text).bind blanks?).bind (keywords? (next :: keywords)) := by
  funext text
  simp [keywords?, Option.bind_assoc]

/-- What keywords are read from is a phrase in front of the rest. -/
theorem keywords?_eq_some {keyword text rest : Text} {keywords : List Text}
    (hkeywords : ∀ other ∈ keyword :: keywords, IsKeyword other) :
    keywords? (keyword :: keywords) text = some rest ↔
      ∃ phrase, IsPhrase (keyword :: keywords) phrase ∧ text = phrase ++ rest := by
  induction keywords generalizing keyword text with
  | nil =>
      rw [keywords?, keyword?_eq_some]
      constructor
      · rintro ⟨word, hword, rfl⟩
        exact ⟨word, .single hword, rfl⟩
      · rintro ⟨word, hphrase, rfl⟩
        cases hphrase with
        | single hword => exact ⟨word, hword, rfl⟩
  | cons next keywords ih =>
      obtain ⟨hfirst, hmore⟩ := List.forall_mem_cons.mp hkeywords
      rw [keywords?_cons_cons]
      constructor
      · intro h
        obtain ⟨inside, hinside, hrest⟩ := Option.bind_eq_some_iff.mp h
        obtain ⟨behind, hbehind, hblanks⟩ := Option.bind_eq_some_iff.mp hinside
        obtain ⟨word, hword, rfl⟩ := keyword?_eq_some.mp hbehind
        obtain ⟨gap, hgap, rfl, -⟩ := blanks?_eq_some.mp hblanks
        obtain ⟨phrase, hphrase, rfl⟩ := (ih hmore).mp hrest
        exact ⟨word ++ (gap ++ phrase), .cons hword hgap hphrase, by simp⟩
      · rintro ⟨phrase, hphrase, rfl⟩
        cases hphrase with
        | @cons _ word gap _ phrase _ hword hgap hphrase =>
            have hkeyword : keyword? keyword (word ++ (gap ++ phrase) ++ rest) =
                some (gap ++ (phrase ++ rest)) :=
              keyword?_eq_some.mpr ⟨word, hword, by simp⟩
            have hblanks : blanks? (gap ++ (phrase ++ rest)) = some (phrase ++ rest) :=
              blanks?_eq_some.mpr ⟨gap, hgap, rfl, hphrase.head? hmore rest⟩
            simp only [hkeyword, hblanks, Option.bind_some]
            exact (ih hmore).mpr ⟨phrase, hphrase, rfl⟩

/-! ## Layout and letter case -/

theorem words_gap_append {gap : Text} (hgap : IsGap gap) (text : Text) :
    words (gap ++ text) = words text :=
  words_blank_append hgap.isBlank text

/-- The words of a phrase spell its keywords. -/
theorem IsPhrase.words (h : IsPhrase keywords text)
    (hkeywords : ∀ keyword ∈ keywords, IsKeyword keyword) :
    List.Forall₂ IsSpelling keywords (words text) := by
  induction h with
  | @single keyword word hword =>
      have hkeyword := hkeywords keyword (by simp)
      rw [words_eq_singleton (hword.ne_nil hkeyword) (hword.isBlank hkeyword)]
      exact .cons hword .nil
  | @cons keyword word gap next text keywords hword hgap hmore ih =>
      obtain ⟨hkeyword, hbehind⟩ := List.forall_mem_cons.mp hkeywords
      have hend : ∀ c ∈ (gap ++ text).head?, isBlank c = true := by
        rw [List.head?_append_of_ne_nil _ hgap.ne_nil]
        exact fun c hc => hgap.isBlank c (List.mem_of_mem_head? hc)
      rw [words_append (hword.ne_nil hkeyword) (hword.isBlank hkeyword) hend,
        words_gap_append hgap]
      exact .cons hword (ih hbehind)

theorem IsPhrase.exists_isSpelling (h : IsPhrase keywords text)
    (hkeywords : ∀ keyword ∈ keywords, IsKeyword keyword) {word : Text}
    (hword : word ∈ Text.words text) : ∃ keyword ∈ keywords, IsSpelling keyword word := by
  obtain ⟨i, hi, rfl⟩ := List.mem_iff_getElem.mp hword
  have hwords := h.words hkeywords
  have hlength := hwords.length_eq
  exact ⟨keywords[i], List.getElem_mem _, hwords.get (by omega) hi⟩

/-- Spellings of keywords with one space between them are a phrase. -/
theorem isPhrase_join {words : List Text} (hne : keywords ≠ [])
    (h : List.Forall₂ IsSpelling keywords words) : IsPhrase keywords (join [' '] words) := by
  induction h with
  | nil => exact absurd rfl hne
  | @cons keyword word keywords words hword hmore ih =>
      cases hmore with
      | nil => exact .single hword
      | cons hnext hmore =>
          have hphrase := IsPhrase.cons hword isGap_space (ih (by simp))
          simpa [join] using hphrase

/-- Neither the layout nor the letter case of a phrase matters. -/
theorem IsPhrase.upper_squash (h : IsPhrase keywords text)
    (hkeywords : ∀ keyword ∈ keywords, IsKeyword keyword) :
    IsPhrase keywords (upper (squash text)) := by
  have hne : keywords ≠ [] := by
    rintro rfl
    cases h
  have hwords : List.Forall₂ IsSpelling keywords (Text.words (upper text)) := by
    rw [words_upper, List.forall₂_map_right_iff]
    exact ((List.forall₂_and_left _ _).mpr ⟨hkeywords, h.words hkeywords⟩).imp
      fun _ _ ⟨hkeyword, hword⟩ => hword.upper hkeyword
  rw [← squash_upper]
  exact isPhrase_join hne hwords

end

end SchemaMigration.Text
