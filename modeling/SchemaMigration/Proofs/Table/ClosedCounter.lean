import SchemaMigration.Proofs.Table.PaddedWord

/-!
# Closed settings of the row counter

Without the settings of the row counter a text may have new ones, made of what stood around them. In
a word it has none if behind each setting a character follows that is no part of one.

## Main Definitions

* `CountersClosed` - behind each setting such a character follows, or nothing
* `behindSetting?_cons_withoutCounterFrom` - a word that did not begin with a setting does not then
* `withoutCounterFrom_withoutCounterFrom` - a word from which settings are taken has no more
-/

namespace SchemaMigration

open Text

/-- Behind each setting of the row counter in a text that stands behind a character, a character
follows that is no part of a setting, or nothing. -/
def CountersClosedFrom (previous : Option Char) (text : Text) : Prop :=
  ∀ front rest back, text = front ++ rest → startsWord (front.getLast?.or previous) = true →
    behindSetting? rest = some back → ∀ c ∈ back.head?, partsSettings c = true

/-- Behind each setting of the row counter a character follows that is no part of a setting, or
nothing. -/
def CountersClosed (text : Text) : Prop := CountersClosedFrom none text

variable {previous : Option Char} {front back text : Text}

theorem CountersClosedFrom.append_right (h : CountersClosedFrom previous (front ++ back)) :
    CountersClosedFrom (front.getLast?.or previous) back := by
  rintro inside rest behind rfl hstarts
  refine h (front ++ inside) rest behind (List.append_assoc ..).symm ?_
  rwa [List.getLast?_append, Option.or_assoc]

theorem CountersClosedFrom.append_left (h : CountersClosedFrom previous (front ++ back))
    (hback : ∀ c ∈ back.head?, partsSettings c = true) : CountersClosedFrom previous front := by
  rintro inside rest behind rfl hstarts hbehind c hc
  cases back with
  | nil => exact h inside rest behind (List.append_nil _) hstarts hbehind c hc
  | cons stop back =>
      have hstop := (endsSetting_of_partsSettings (hback stop rfl)).stopsAt
      refine h inside (rest ++ stop :: back) (behind ++ stop :: back) (List.append_assoc ..) hstarts
        ?_ c ?_
      · rw [hstop.append, hbehind, Option.map_some]
      · rw [List.head?_append, Option.mem_def.mp hc]
        rfl

theorem CountersClosedFrom.congr {other : Option Char} (h : CountersClosedFrom previous text)
    (hsame : startsWord previous = startsWord other ∨ ∀ c ∈ text.head?, partsSettings c = true) :
    CountersClosedFrom other text := by
  intro front rest back htext hstarts hbehind
  cases hlast : front.getLast? with
  | some c => exact h front rest back htext (by rwa [hlast] at hstarts ⊢) hbehind
  | none =>
      obtain rfl : front = [] := List.getLast?_eq_none_iff.mp hlast
      obtain rfl : text = rest := htext
      rcases hsame with heq | hparts
      · exact h [] text back rfl (heq.trans hstarts) hbehind
      · cases text with
        | nil => cases hbehind
        | cons c text =>
            rw [behindSetting?_cons (endsSetting_of_partsSettings (hparts c rfl))] at hbehind
            cases hbehind

/-- A text that does not begin with a setting keeps its first character. -/
theorem head?_withoutCounterFrom (h : counterSetting? previous text = none) :
    (withoutCounterFrom previous text).head? = text.head? := by
  cases text with
  | nil => rfl
  | cons c text => rw [withoutCounterFrom_of_none h, List.head?_cons, List.head?_cons]

/-- Such a character stays, and what is behind it does not depend on what is in front. -/
theorem head?_withoutCounterFrom_of_partsSettings (hblank : ∀ c ∈ text.head?, isBlank c = false)
    (hparts : ∀ c ∈ text.head?, partsSettings c = true) :
    (withoutCounterFrom previous text).head? = text.head? := by
  refine head?_withoutCounterFrom ?_
  rw [counterSetting?_of_head? hblank]
  cases text with
  | nil => exact ite_self none
  | cons c text =>
      rw [behindSetting?_cons (endsSetting_of_partsSettings (hparts c rfl)), Option.map_none,
        ite_self]

theorem keyword?_keyword_append (first second text : Text) :
    keyword? (first ++ second) text = (keyword? first text).bind (keyword? second) := by
  induction first generalizing text with
  | nil => rfl
  | cons letter first ih =>
      cases text with
      | nil => rfl
      | cons c text =>
          rw [List.cons_append, keyword?, keyword?, ih]
          split <;> rfl

/-- Behind a part of a word no setting begins, so a keyword is spelled by what stood there. -/
theorem keyword?_withoutCounterFrom {keyword behind : Text} {c : Char}
    (hkeyword : ∀ letter ∈ keyword, ∀ d ∈ spellings letter, isWordCharacter d = true)
    (hc : isWordCharacter c = true) (hplain : ∀ d ∈ text, isBlank d = false)
    (h : keyword? keyword (withoutCounterFrom (some c) text) = some behind) :
    ∃ d rest, isWordCharacter d = true ∧ keyword? keyword text = some rest ∧
      behind = withoutCounterFrom (some d) rest := by
  induction keyword generalizing c text with
  | nil => exact ⟨c, text, hc, rfl, (Option.some.inj h).symm⟩
  | cons letter keyword ih =>
      obtain ⟨hletter, hothers⟩ := List.forall_mem_cons.mp hkeyword
      cases text with
      | nil => cases h
      | cons d text =>
          have hnone : counterSetting? (some c) (d :: text) = none := by
            rw [counterSetting?_of_head? fun e he => hplain e (List.mem_of_mem_head? he),
              startsWord, hc]
            rfl
          rw [withoutCounterFrom_of_none hnone, keyword?, Option.ite_none_right_eq_some] at h
          obtain ⟨e, rest, he, hrest, hbehind⟩ := ih hothers (hletter d (mem_spellings.mpr h.1))
            (fun e he => hplain e (List.mem_cons_of_mem _ he)) h.2
          exact ⟨e, rest, he, by rwa [keyword?, if_pos h.1], hbehind⟩

/-- Digits are read from a text if it begins with one. -/
theorem isSome_digits? (text : Text) : (digits? text).isSome = text.head?.any isDigit := by
  cases text with
  | nil => rfl
  | cons c text => cases hc : isDigit c <;> simp [digits?, hc]

/-- The keyword of a setting is a letter, more letters, and the equals sign. -/
theorem isSome_behindSetting?_cons (c : Char) (text : Text) : (behindSetting? (c :: text)).isSome =
    (spells 'A' c && ((keyword? "UTO_INCREMENT" text).bind (keyword? ['='])).any fun value =>
      value.head?.any isDigit) := by
  have hletters : ("AUTO_INCREMENT=" : Text) = 'A' :: ("UTO_INCREMENT".toList ++ ['=']) := rfl
  rw [behindSetting?, hletters, keyword?, keyword?_keyword_append]
  cases spells 'A' c with
  | false => rfl
  | true =>
      rw [if_pos rfl, Bool.true_and]
      cases (keyword? "UTO_INCREMENT" text).bind (keyword? ['=']) with
      | none => rfl
      | some value => exact isSome_digits? value

/-- What stands behind the setting that a text begins with is no part of a setting. -/
theorem CountersClosedFrom.head?_behind {used rest : Text}
    (hclosed : CountersClosedFrom previous (used ++ rest))
    (hhead : ∀ c ∈ (used ++ rest).head?, isBlank c = false)
    (hused : counterSetting? previous (used ++ rest) = some ([], rest)) :
    ∀ c ∈ rest.head?, partsSettings c = true := by
  rw [counterSetting?_of_head? hhead, Option.ite_none_right_eq_some] at hused
  obtain ⟨hstarts, hused⟩ := hused
  obtain ⟨back, hback, heq⟩ := Option.map_eq_some_iff.mp hused
  obtain rfl : back = rest := (Prod.mk.inj heq).2
  exact hclosed [] _ back rfl hstarts hback

/-- A digit that is left in front was there before, as behind a setting there is none. -/
theorem head?_any_isDigit_of_withoutCounterFrom (hclosed : CountersClosedFrom previous text)
    (hplain : ∀ c ∈ text, isBlank c = false)
    (hdigit : (withoutCounterFrom previous text).head?.any isDigit = true) :
    text.head?.any isDigit = true := by
  have hhead : ∀ c ∈ text.head?, isBlank c = false := fun c hc =>
    hplain c (List.mem_of_mem_head? hc)
  cases hfound : counterSetting? previous text with
  | none => rwa [head?_withoutCounterFrom hfound] at hdigit
  | some found =>
      obtain ⟨used, rest, hne, rfl, hused⟩ :=
        exists_of_counterSetting? (Option.isSome_iff_exists.mpr ⟨found, hfound⟩)
      have hrest := hclosed.head?_behind hhead hused
      have hblank : ∀ c ∈ rest.head?, isBlank c = false := fun c hc =>
        hplain c (List.mem_append_right _ (List.mem_of_mem_head? hc))
      rw [withoutCounterFrom_of_some hne hused,
        head?_withoutCounterFrom_of_partsSettings hblank hrest] at hdigit
      cases rest with
      | nil => cases hdigit
      | cons c rest =>
          have hnot := isDigit_of_partsSettings (hrest c rfl)
          exact absurd hdigit (by simp [hnot])

/-- Without the settings inside, a word begins with none if it did not begin with one. -/
theorem behindSetting?_cons_withoutCounterFrom {c : Char}
    (hclosed : CountersClosedFrom previous (c :: text)) (hplain : ∀ d ∈ text, isBlank d = false)
    (h : behindSetting? (c :: text) = none) :
    behindSetting? (c :: withoutCounterFrom (some c) text) = none := by
  rw [← Option.not_isSome_iff_eq_none, isSome_behindSetting?_cons] at h ⊢
  rintro hbegins
  rw [Bool.and_eq_true, Option.any_eq_true] at hbegins
  obtain ⟨hc, value, hvalue, hdigit⟩ := hbegins
  obtain ⟨behind, hbehind, hequals⟩ := Option.bind_eq_some_iff.mp hvalue
  have hword : isWordCharacter c = true :=
    (by decide +kernel : ∀ d ∈ spellings 'A', isWordCharacter d = true) c (mem_spellings.mpr hc)
  obtain ⟨d, rest, hd, hrest, rfl⟩ :=
    keyword?_withoutCounterFrom (by decide +kernel) hword hplain hbehind
  obtain ⟨used, rfl, -⟩ := exists_of_keyword? hrest
  cases rest with
  | nil => cases hequals
  | cons e rest =>
      obtain ⟨-, hplain⟩ := List.forall_mem_append.mp hplain
      obtain ⟨he, hplain⟩ := List.forall_mem_cons.mp hplain
      have hnone : counterSetting? (some d) (e :: rest) = none := by
        rw [counterSetting?_of_head? (by simpa using he), startsWord, hd]
        rfl
      rw [withoutCounterFrom_of_none hnone, keyword?, Option.ite_none_right_eq_some] at hequals
      obtain ⟨hspells, hvalue⟩ := hequals
      obtain rfl : withoutCounterFrom (some e) rest = value := Option.some.inj hvalue
      have hwhole : CountersClosedFrom previous ((c :: (used ++ [e])) ++ rest) := by
        simpa using hclosed
      have hclosed : CountersClosedFrom (some e) rest := by
        have hbehind := hwhole.append_right
        rwa [← List.cons_append, List.getLast?_concat, Option.some_or] at hbehind
      -- the keyword and the equals sign stood there before, and so did the digit
      refine h ?_
      rw [hrest, hc, Option.bind_some, keyword?, if_pos hspells]
      exact head?_any_isDigit_of_withoutCounterFrom hclosed hplain hdigit

theorem counterSetting?_cons_withoutCounterFrom {c : Char}
    (hclosed : CountersClosedFrom previous (c :: text))
    (hplain : ∀ d ∈ c :: text, isBlank d = false)
    (h : counterSetting? previous (c :: text) = none) :
    counterSetting? previous (c :: withoutCounterFrom (some c) text) = none := by
  obtain ⟨hc, hrest⟩ := List.forall_mem_cons.mp hplain
  rw [counterSetting?_of_head? (by simpa using hc)] at h ⊢
  split at h
  · rename_i hstarts
    rw [if_pos hstarts, behindSetting?_cons_withoutCounterFrom hclosed hrest
      (Option.map_eq_none_iff.mp h), Option.map_none]
  · rename_i hstarts
    rw [if_neg hstarts]

/-- What is left of a word whose settings are closed has no more settings. -/
theorem withoutCounterFrom_withoutCounterFrom (hclosed : CountersClosedFrom previous text)
    (hplain : ∀ c ∈ text, isBlank c = false) :
    withoutCounterFrom previous (withoutCounterFrom previous text) =
      withoutCounterFrom previous text := by
  induction hn : text.length using Nat.strong_induction_on generalizing text previous with
  | _ n ih =>
      have hhead : ∀ c ∈ text.head?, isBlank c = false := fun c hc =>
        hplain c (List.mem_of_mem_head? hc)
      cases hfound : counterSetting? previous text with
      | some found =>
          obtain ⟨used, rest, hne, rfl, hused⟩ :=
            exists_of_counterSetting? (Option.isSome_iff_exists.mpr ⟨found, hfound⟩)
          have hlength : rest.length < n := by
            have hpositive := List.length_pos_of_ne_nil hne
            rw [List.length_append] at hn
            omega
          have hblank := (List.forall_mem_append.mp hplain).2
          have hrest := hclosed.head?_behind hhead hused
          have hleft : ∀ c ∈ (withoutCounterFrom used.getLast? rest).head?,
              partsSettings c = true := by
            rwa [head?_withoutCounterFrom_of_partsSettings
              (fun c hc => hblank c (List.mem_of_mem_head? hc)) hrest]
          have hlast : used.getLast?.or previous = used.getLast? := by
            rw [List.getLast?_eq_some_getLast hne, Option.some_or]
          have hself := ih rest.length hlength (hlast ▸ hclosed.append_right) hblank rfl
          rw [withoutCounterFrom_of_some hne hused, withoutCounterFrom_congr_of_partsSettings hleft,
            hself]
      | none =>
          cases text with
          | nil => rfl
          | cons c text =>
              have hwhole : CountersClosedFrom previous ([c] ++ text) := hclosed
              have hbehind : CountersClosedFrom (some c) text := hwhole.append_right
              have hself := ih text.length (by simp [← hn]) hbehind
                (List.forall_mem_cons.mp hplain).2 rfl
              have hstay := counterSetting?_cons_withoutCounterFrom hclosed hplain hfound
              rw [withoutCounterFrom_of_none hfound, withoutCounterFrom_of_none hstay]
              exact congrArg (c :: ·) hself

end SchemaMigration
