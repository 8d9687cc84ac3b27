import Mathlib.Data.List.DropRight
import SchemaMigration.Proofs.Text.Search

/-!
# Recognisers

What a recogniser finds at the beginning of a text does not depend on what stands far behind it.
There are characters that none of the recognisers here takes, and at the first of these each of
them stops: with more text from there on it finds the same and leaves more.

## Main Definitions

* `exists_of_keyword?` - what spells a keyword
* `keyword?_append` - a keyword is found without a look at what cannot spell it
* `tellApart` - keywords of which no text spells both
* `phrase?` - keywords with blanks behind each of them
* `StopsAt` - a recogniser that stops at a character
-/

namespace SchemaMigration.Text

/-- What is said of the characters of a text is decided for these, not for all that there are. -/
scoped instance (priority := 2000) decidableForallMem {p : Char → Prop} [DecidablePred p]
    (text : Text) : Decidable (∀ c ∈ text, p c) :=
  List.decidableBAll p text

/-- What is said of the first or last character, if there is one, is decided for this one. -/
scoped instance (priority := 2000) decidableForallEnd {p : Char → Prop} [DecidablePred p]
    (found : Option Char) : Decidable (∀ c ∈ found, p c) :=
  Option.decidableForallMem found

/-! ## Keywords -/

/-- A keyword that is read is spelled by the characters in front of the rest. -/
theorem exists_of_keyword? {keyword text rest : Text} (h : keyword? keyword text = some rest) :
    ∃ word, text = word ++ rest ∧ ∀ c ∈ word, ∃ letter ∈ keyword, spells letter c = true := by
  induction keyword generalizing text with
  | nil => exact ⟨[], Option.some.inj h, by simp⟩
  | cons letter keyword ih =>
      cases text with
      | nil => cases h
      | cons c text =>
          rw [keyword?] at h
          split at h
          · rename_i hspells
            obtain ⟨word, rfl, hword⟩ := ih h
            refine ⟨c :: word, rfl, ?_⟩
            intro d hd
            rcases List.mem_cons.mp hd with rfl | hd
            · exact ⟨letter, by simp, hspells⟩
            · obtain ⟨other, hother, hd⟩ := hword d hd
              exact ⟨other, List.mem_cons_of_mem _ hother, hd⟩
          · cases h

/-- A keyword ends where a character follows that spells none of its letters. -/
theorem keyword?_append {keyword rest : Text}
    (h : ∀ letter ∈ keyword, ∀ c ∈ rest.head?, spells letter c = false) (text : Text) :
    keyword? keyword (text ++ rest) = (keyword? keyword text).map (· ++ rest) := by
  induction keyword generalizing text with
  | nil => rfl
  | cons letter keyword ih =>
      have hbehind := ih fun other hother => h other (List.mem_cons_of_mem _ hother)
      cases text with
      | nil =>
          cases rest with
          | nil => rfl
          | cons c rest => simp [keyword?, h letter (by simp) c rfl]
      | cons c text =>
          rw [List.cons_append, keyword?, keyword?]
          split
          · exact hbehind text
          · rfl

theorem before_append (front rest : Text) : before (front ++ rest) rest = front := by
  simp [before]

/-- The characters that spell a letter of a keyword. -/
def spellings (letter : Char) : List Char :=
  [letter, letter.toLower] ++ (if letter == 'S' then ['\u017F'] else []) ++
    (if letter == 'K' then ['\u212A'] else []) ++
    (if letter == 'I' then ['\u0130', '\u0131'] else [])

theorem mem_spellings {letter c : Char} : c ∈ spellings letter ↔ spells letter c = true := by
  simp only [spellings, spells]
  split <;> split <;> split <;> simp_all [or_assoc]

/-- Whether two keywords have letters at some place that no character spells both. -/
def tellApart : (keyword other : Text) → Bool
  | letter :: keyword, other :: rest =>
    ! (spellings letter).any (spells other) || tellApart keyword rest
  | _, _ => false

theorem keyword?_eq_none_of_tellApart {keyword other text rest : Text}
    (hapart : tellApart keyword other = true) (h : keyword? keyword text = some rest) :
    keyword? other text = none := by
  induction keyword generalizing other text with
  | nil => cases hapart
  | cons letter keyword ih =>
      cases other with
      | nil => cases hapart
      | cons first other =>
          cases text with
          | nil => cases h
          | cons c text =>
              rw [keyword?] at h ⊢
              split at h
              · rename_i hc
                rw [tellApart, Bool.or_eq_true] at hapart
                split
                · rename_i hfirst
                  rcases hapart with hletter | hapart
                  · have hmem : c ∈ spellings letter := mem_spellings.mpr hc
                    simp only [Bool.not_eq_true', List.any_eq_false] at hletter
                    exact absurd hfirst (hletter c hmem)
                  · exact ih hapart h
                · rfl
              · cases h

/-- A keyword has as many letters as the word that spells it. -/
theorem length_of_keyword? {keyword text rest : Text} (h : keyword? keyword text = some rest) :
    text.length = keyword.length + rest.length := by
  induction keyword generalizing text with
  | nil => simp [Option.some.inj h]
  | cons letter keyword ih =>
      cases text with
      | nil => cases h
      | cons c text =>
          rw [keyword?] at h
          split at h
          · simp only [List.length_cons, ih h]
            omega
          · cases h

/-! ## Blanks -/

/-- What holds of the few blanks one by one holds of every blank. -/
theorem of_isBlank (test : Char → Bool) (h : (blankRanges.all fun (first, last) =>
      (List.range' first (last + 1 - first)).all fun code => test (Char.ofNat code)) = true)
    {c : Char} (hc : isBlank c = true) : test c = true := by
  obtain ⟨⟨first, last⟩, hrange, hinside⟩ := List.any_eq_true.mp hc
  simp only [Bool.and_eq_true, decide_eq_true_eq] at hinside
  have hcodes := List.all_eq_true.mp (List.all_eq_true.mp h _ hrange) c.toNat
    (List.mem_range'_1.mpr (by omega))
  rwa [Char.ofNat_toNat] at hcodes

theorem isWordCharacter_of_isBlank {c : Char} (hc : isBlank c = true) :
    isWordCharacter c = false := by
  have hword := of_isBlank (! isWordCharacter ·) (by decide +kernel) hc
  simpa using hword

/-- A word is over where it was over if nothing or a blank follows. -/
theorem endsWord_append {rest : Text} (hrest : ∀ c ∈ rest.head?, isWordCharacter c = false)
    (text : Text) : endsWord (text ++ rest) = endsWord text := by
  cases text with
  | cons c text => rfl
  | nil =>
      cases rest with
      | nil => rfl
      | cons c rest => simp [endsWord, hrest c rfl]

/-- No blank spells a letter of a keyword. -/
theorem spells_eq_false_of_isBlank {letter c : Char} (hletter : isBlank letter = false)
    (hlower : isBlank letter.toLower = false) (hc : isBlank c = true) :
    spells letter c = false := by
  rw [Bool.eq_false_iff]
  intro hspells
  simp only [spells, Bool.or_eq_true, Bool.and_eq_true, beq_iff_eq] at hspells
  rcases hspells with (((rfl | rfl) | ⟨-, rfl⟩) | ⟨-, rfl⟩) | ⟨-, rfl | rfl⟩
  · simp [hletter] at hc
  · simp [hlower] at hc
  all_goals exact absurd hc (by decide)

theorem exists_of_blanks? {text rest : Text} (h : blanks? text = some rest) :
    ∃ c behind, text = c :: behind ∧ isBlank c = true ∧ trimLeft behind = rest := by
  cases text with
  | nil => cases h
  | cons c behind =>
      rw [blanks?, Option.ite_none_right_eq_some] at h
      exact ⟨c, behind, rfl, h.1, Option.some.inj h.2⟩

theorem blanks?_space {text : Text} (h : ∀ c ∈ text.head?, isBlank c = false) :
    blanks? (' ' :: text) = some text := by
  have htrim : trimLeft text = text := by
    cases text with
    | nil => rfl
    | cons c text => simp [trimLeft, h c rfl]
  rw [blanks?, if_pos (by decide), htrim]

/-- All blanks go. -/
theorem trimLeft_of_blanks? {text rest : Text} (h : blanks? text = some rest) :
    trimLeft rest = rest := by
  obtain ⟨_, _, _, _, rfl⟩ := exists_of_blanks? h
  exact List.dropWhile_idempotent ..

/-! ## Phrases -/

/-- The rest behind keywords with blanks behind each of them. -/
def phrase? : List Text → Text → Option Text
  | [], text => some text
  | keyword :: keywords, text => ((keyword? keyword text).bind blanks?).bind (phrase? keywords)

theorem phrase?_cons {keyword : Text} {keywords : List Text} {text rest : Text}
    (h : phrase? (keyword :: keywords) text = some rest) : ∃ behind next,
      keyword? keyword text = some behind ∧ blanks? behind = some next ∧
        phrase? keywords next = some rest := by
  obtain ⟨next, hnext, hrest⟩ := Option.bind_eq_some_iff.mp h
  obtain ⟨behind, hbehind, hblanks⟩ := Option.bind_eq_some_iff.mp hnext
  exact ⟨behind, next, hbehind, hblanks, hrest⟩

theorem phrase?_suffix {keywords : List Text} {text rest : Text}
    (h : phrase? keywords text = some rest) : rest <:+ text := by
  induction keywords generalizing text with
  | nil => exact Option.some.inj h ▸ List.suffix_rfl
  | cons keyword keywords ih =>
      obtain ⟨behind, next, hkeyword, hblanks, hrest⟩ := phrase?_cons h
      obtain ⟨word, rfl, -⟩ := exists_of_keyword? hkeyword
      obtain ⟨c, inside, rfl, -, rfl⟩ := exists_of_blanks? hblanks
      have hinside : trimLeft inside <:+ c :: inside :=
        (List.dropWhile_suffix _).trans (List.suffix_cons c inside)
      exact (ih hrest).trans (hinside.trans (List.suffix_append word _))

/-- Blanks at the end of a text stay behind what follows a phrase. -/
theorem phrase?_append_blank {keywords : List Text} {text rest pad : Text}
    (hkeywords : ∀ keyword ∈ keywords, ∀ letter ∈ keyword,
      isBlank letter = false ∧ isBlank letter.toLower = false)
    (h : phrase? keywords text = some rest) (hrest : rest ≠ [])
    (hpad : ∀ c ∈ pad, isBlank c = true) :
    phrase? keywords (text ++ pad) = some (rest ++ pad) := by
  induction keywords generalizing text with
  | nil => rw [phrase?, Option.some.inj h]
  | cons keyword keywords ih =>
      obtain ⟨behind, next, hkeyword, hblanks, hphrase⟩ := phrase?_cons h
      obtain ⟨c, inside, rfl, hc, rfl⟩ := exists_of_blanks? hblanks
      have hne : trimLeft inside ≠ [] := by
        intro hnil
        rw [hnil] at hphrase
        exact hrest (List.suffix_nil.mp (phrase?_suffix hphrase))
      have hspells : ∀ letter ∈ keyword, ∀ d ∈ pad.head?, spells letter d = false := by
        intro letter hletter d hd
        obtain ⟨hblank, hlower⟩ := hkeywords keyword (by simp) letter hletter
        exact spells_eq_false_of_isBlank hblank hlower (hpad d (List.mem_of_mem_head? hd))
      have hmore : blanks? (c :: inside ++ pad) = some (trimLeft inside ++ pad) := by
        rw [List.cons_append, blanks?, if_pos hc, trimLeft, List.dropWhile_append,
          if_neg (by simpa [trimLeft] using hne), trimLeft]
      rw [phrase?, keyword?_append hspells, hkeyword, Option.map_some, Option.bind_some, hmore,
        Option.bind_some]
      exact ih (fun other hother => hkeywords other (List.mem_cons_of_mem _ hother)) hphrase

/-! ## Where recognisers stop -/

/-- What is found at the beginning of a text without a look at or behind a character. -/
structure StopsAt (stop : Char) (find : Text → Option Text) : Prop where
  append : ∀ text rest, find (text ++ stop :: rest) = (find text).map (· ++ stop :: rest)
  suffix : ∀ text rest, find text = some rest → rest <:+ text

variable {stop : Char}

theorem stopsAt_some : StopsAt stop some where
  append _ _ := rfl
  suffix _ _ h := Option.some.inj h ▸ List.suffix_rfl

theorem StopsAt.bind {first second : Text → Option Text} (hfirst : StopsAt stop first)
    (hsecond : StopsAt stop second) : StopsAt stop fun text => (first text).bind second where
  append text rest := by
    simp only [hfirst.append]
    cases first text with
    | none => rfl
    | some mid => exact hsecond.append mid rest
  suffix text rest h := by
    obtain ⟨mid, hmid, hrest⟩ := Option.bind_eq_some_iff.mp h
    exact (hsecond.suffix mid rest hrest).trans (hfirst.suffix text mid hmid)

theorem StopsAt.orElse {first second : Text → Option Text} (hfirst : StopsAt stop first)
    (hsecond : StopsAt stop second) :
    StopsAt stop fun text => (first text).orElse fun _ => second text where
  append text rest := by
    simp only [hfirst.append]
    cases first text with
    | none => exact hsecond.append text rest
    | some found => rfl
  suffix text rest h := by
    cases hfound : first text with
    | none => exact hsecond.suffix text rest (by simpa [hfound] using h)
    | some found => exact hfirst.suffix text rest (by simpa [hfound] using h)

/-- A class of characters is passed over up to the first character outside of it. -/
theorem dropWhile_append_stop {inside : Char → Bool} (h : inside stop = false)
    (text rest : Text) :
    (text ++ stop :: rest).dropWhile inside = text.dropWhile inside ++ stop :: rest := by
  rw [List.dropWhile_append]
  split
  · rename_i hnil
    rw [List.isEmpty_iff.mp hnil]
    simp [h]
  · rfl

theorem stopsAt_dropWhile {inside : Char → Bool} (h : inside stop = false) :
    StopsAt stop fun text => some (text.dropWhile inside) where
  append text rest := congrArg some (dropWhile_append_stop h text rest)
  suffix _ _ hrest := Option.some.inj hrest ▸ List.dropWhile_suffix _

/-- A mark of one character. -/
theorem stopsAt_after? {mark : Char} (h : mark ≠ stop) : StopsAt stop (after? [mark]) where
  append text rest := by
    cases text with
    | nil => simp [after?, h]
    | cons c text => by_cases hc : mark = c <;> simp [after?, hc]
  suffix text rest hrest := eq_append_of_after? hrest ▸ List.suffix_append _ _

theorem stopsAt_digits? (h : isDigit stop = false) : StopsAt stop digits? where
  append text rest := by
    cases text with
    | nil => simp [digits?, h]
    | cons c text =>
        simp only [List.cons_append, digits?]
        rw [dropWhile_append_stop h]
        split <;> rfl
  suffix text rest hrest := by
    cases text with
    | nil => simp [digits?] at hrest
    | cons c text =>
        simp only [digits?, Option.ite_none_right_eq_some, Option.some.injEq] at hrest
        exact hrest.2 ▸ (List.dropWhile_suffix _).trans (List.suffix_cons c text)

theorem stopsAt_blanks? (h : isBlank stop = false) : StopsAt stop blanks? where
  append text rest := by
    cases text with
    | nil => simp [blanks?, h]
    | cons c text =>
        simp only [List.cons_append, blanks?, trimLeft]
        rw [dropWhile_append_stop h]
        split <;> rfl
  suffix text rest hrest := by
    cases text with
    | nil => simp [blanks?] at hrest
    | cons c text =>
        simp only [blanks?, Option.ite_none_right_eq_some, Option.some.injEq] at hrest
        exact hrest.2 ▸ (List.dropWhile_suffix _).trans (List.suffix_cons c text)

theorem stopsAt_keyword? {keyword : Text} (h : ∀ letter ∈ keyword, spells letter stop = false) :
    StopsAt stop (keyword? keyword) where
  append text rest := by
    refine keyword?_append (fun letter hletter c hc => ?_) text
    obtain rfl : stop = c := by simpa using hc
    exact h letter hletter
  suffix text rest hrest := by
    obtain ⟨word, rfl, -⟩ := exists_of_keyword? hrest
    exact List.suffix_append _ _

theorem stopsAt_anyKeyword? {keywords : List Text}
    (h : ∀ keyword ∈ keywords, ∀ letter ∈ keyword, spells letter stop = false) :
    StopsAt stop (anyKeyword? keywords) := by
  induction keywords with
  | nil => exact ⟨fun _ _ => rfl, fun _ _ hnone => by cases hnone⟩
  | cons keyword keywords ih =>
      have hcons : anyKeyword? (keyword :: keywords)
          = fun text => (keyword? keyword text).orElse fun _ => anyKeyword? keywords text := by
        funext text
        rw [anyKeyword?, List.findSome?_cons]
        cases keyword? keyword text <;> rfl
      rw [hcons]
      exact (stopsAt_keyword? (h keyword (by simp))).orElse
        (ih fun other hother => h other (List.mem_cons_of_mem _ hother))

theorem stopsAt_afterKeyword? {keyword : Text} (hblank : isBlank stop = false)
    (h : ∀ letter ∈ keyword, spells letter stop = false) :
    StopsAt stop (afterKeyword? keyword) :=
  (stopsAt_blanks? hblank).bind (stopsAt_keyword? h)

end SchemaMigration.Text
