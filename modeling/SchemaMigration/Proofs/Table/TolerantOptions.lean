import SchemaMigration.Options.Basic
import SchemaMigration.Proofs.Table.ClosedCounter

/-!
# Table options in tolerant mode

In tolerant mode table options are compared without the row counter and the collation, each with one
space in front. The options that a table is given come without the row counter too, but with no
blank at all in front of it. Which blanks are left over in the one case and not in the other is told
word for word.

## Main Definitions

* `normalOptions` - the options that are compared
* `Options.normalizeTableOptions_eq` - they are what the rules make of options
* `PaddedWord.compared`, `PaddedWord.targeted` - what is compared of a word, and what once the row
  counter is gone
* `CountersSpaced` - between things that are compared each setting has one space in front
* `normalOptions_withoutCounter_iff` - both come to the same just if that is so
-/

namespace SchemaMigration

open Text

/-! ## Rules -/

/-- The test for a decimal digit. -/
def digitTest : CharacterTest := .set .exact false false [.category .digit false]

/-- The test for a character of a word. -/
def wordTest : CharacterTest := .set .exact false false [.category .word false, .single 0x5F]

theorem accepts_digitTest : digitTest.accepts = isDigit := by
  funext c
  simp [digitTest, CharacterTest.accepts, ClassItem.has, Category.has, Folding.fold]

/-- A text without settings of the row counter and a space in front of each. -/
def withoutSpacedCounter (text : Text) : Text := withoutSetting "AUTO_INCREMENT=" isDigit text

/-- A text without settings of the collation and a space in front of each. -/
def withoutCollation (text : Text) : Text := withoutSetting "COLLATE=" wordTest.accepts text

/-- The options of a table that are compared in tolerant mode. -/
def normalOptions (text : Text) : Text := trim (withoutCollation (withoutSpacedCounter text))

/-- The rules for table options take out the row counter and the collation. -/
theorem optionRules : (defaultRules.filter (·.scope = .options)).map
    (fun rule => (rule.pattern, rule.template)) =
      [(⟨settingPlan digitTest "AUTO_INCREMENT=", 16, 0, []⟩, .ok []),
       (⟨settingPlan wordTest "COLLATE=", 9, 0, []⟩, .ok [])] := by
  decide +kernel

theorem isSettingKeyword_counter : IsSettingKeyword "AUTO_INCREMENT=" where
  ne_nil := by decide
  spellsAlike letter h := spellsAlike_optionKeywords letter (List.mem_append_left _ h)
  beginsWord := by decide +kernel

theorem isSettingKeyword_collation : IsSettingKeyword "COLLATE=" where
  ne_nil := by decide
  spellsAlike letter h := spellsAlike_optionKeywords letter (List.mem_append_right _ h)
  beginsWord := by decide +kernel

theorem Options.normalizeTableOptions_eq {options : Options} (hrules : options.rules = defaultRules)
    (htolerant : options.tolerant = true) (text : Text) :
    options.normalizeTableOptions text = normalOptions text := by
  have hrule {rule : Rule} {keyword : Text} {value : CharacterTest}
      (hkeyword : IsSettingKeyword keyword) (h : (rule.pattern, rule.template) =
        (⟨settingPlan value keyword, keyword.length + 1, 0, []⟩, .ok [])) (text : Text) :
      rule.apply text = withoutSetting keyword value.accepts text := by
    obtain ⟨hpattern, htemplate⟩ := Prod.mk.inj h
    have hsetting : rule.pattern.IsForSetting keyword value := by
      rw [hpattern]
      exact ⟨rfl, rfl, hkeyword⟩
    rw [Rule.apply, Rule.result, htemplate]
    simp only [hsetting.substitute_eq]
  have hboth := optionRules
  rw [← hrules] at hboth
  obtain ⟨counter, rest, hfilter, hcounter, hrest⟩ := List.map_eq_cons_iff.mp hboth
  obtain ⟨collation, rest, rfl, hcollation, hrest⟩ := List.map_eq_cons_iff.mp hrest
  obtain rfl := List.map_eq_nil_iff.mp hrest
  rw [normalizeTableOptions, normalize, if_pos htolerant, rulesOf, hfilter]
  simp only [List.foldl_cons, List.foldl_nil]
  rw [hrule isSettingKeyword_counter hcounter, hrule isSettingKeyword_collation hcollation,
    accepts_digitTest]
  rfl

/-! ## Blanks at the ends -/

theorem stopsApart_counter : StopsApart "AUTO_INCREMENT=" isDigit :=
  stopsApart_of (by decide +kernel) fun _ => isDigit_of_partsSettings

theorem accepts_wordTest (c : Char) :
    wordTest.accepts c = (isWordCharacter c || c.toNat == 0x5F) := by
  simp [wordTest, CharacterTest.accepts, ClassItem.has, Category.has, Folding.fold]

theorem stopsApart_collation : StopsApart "COLLATE=" wordTest.accepts := by
  refine stopsApart_of (by decide +kernel) fun c hc => ?_
  rw [accepts_wordTest, Bool.or_eq_false_iff, beq_eq_false_iff_ne]
  refine ⟨by simpa [startsWord] using startsWord_of_partsSettings hc, fun hunderscore => ?_⟩
  obtain rfl : c = '_' := Char.toNat_inj.mp hunderscore
  exact absurd hc (by decide +kernel)

theorem isBlank_cutSpace {pad : Text} (h : ∀ c ∈ pad, isBlank c = true) :
    ∀ c ∈ cutSpace pad, isBlank c = true := by
  rw [cutSpace]
  split
  · exact fun c hc => h c (List.mem_of_mem_dropLast hc)
  · exact h

/-- Whether blanks at the ends of a text go before its settings or behind them is the same. -/
theorem trim_withoutSetting_trim {keyword : Text} {inside : Char → Bool}
    (hstops : StopsApart keyword inside) (text : Text) :
    trim (withoutSetting keyword inside (trim text)) =
      trim (withoutSetting keyword inside text) := by
  obtain ⟨front, back, htext, hfront, hback⟩ := exists_trim text
  have hstay (previous : Option Char) : withoutSettingFrom keyword inside previous back = back := by
    have hpad : withoutSettingFrom keyword inside previous (back ++ []) =
        (if (setting? keyword inside []).isSome then cutSpace back else back) ++
          withoutSettingFrom keyword inside (back.getLast?.or previous) [] :=
      withoutSettingFrom_pad hstops hback (by simp) previous
    rw [List.append_nil, withoutSettingFrom_nil, List.append_nil] at hpad
    rw [hpad, if_neg]
    cases keyword <;> simp [setting?, keyword?, class?]
  have hbegin : startsWord (front.getLast?.or none) = startsWord none := by
    rw [Option.or_none]
    cases hlast : front.getLast? with
    | none => rfl
    | some c => exact startsWord_of_isBlank (hfront c (List.mem_of_mem_getLast? hlast))
  have hparts : ∀ c ∈ back.head?, partsSettings c = true := fun c hc =>
    partsSettings_of_isBlank (hback c (List.mem_of_mem_head? hc))
  conv_rhs => rw [htext, withoutSetting_eq, withoutSettingFrom_append hstops hparts, hstay,
    withoutSettingFrom_pad hstops hfront head?_trim, withoutSettingFrom_congr hstops (.inl hbegin),
    ← withoutSetting_eq, ← trim_trimRight, trimRight_append_of_blank _ hback, trim_trimRight]
  refine (trim_blank_append ?_ _).symm
  split
  · exact isBlank_cutSpace hfront
  · exact hfront

@[simp] theorem normalOptions_trim (text : Text) :
    normalOptions (trim text) = normalOptions text := by
  rw [normalOptions, normalOptions, withoutCollation, withoutCollation,
    ← trim_withoutSetting_trim stopsApart_collation, withoutSpacedCounter,
    trim_withoutSetting_trim stopsApart_counter,
    trim_withoutSetting_trim stopsApart_collation]
  rfl

/-! ## Words -/

theorem withoutSetting_subset {keyword : Text} {inside : Char → Bool} (text : Text) :
    withoutSetting keyword inside text ⊆ text := by
  refine (replaceMatchesFrom_sublist (fun previous text found hfound => ?_) none 0 text).subset
  obtain ⟨rest, -, rfl⟩ := Option.map_eq_some_iff.mp hfound
  rfl

namespace PaddedWord

/-- A word that has no blanks inside, and a row counter that is closed wherever it has one. -/
structure IsClosed (p : PaddedWord) : Prop where
  isPlain : p.IsPlain
  ne_nil : p.word ≠ []
  closed : CountersClosed p.word

theorem IsClosed.without_pad {p : PaddedWord} (h : p.IsClosed) : IsClosed ⟨[], p.word⟩ :=
  ⟨⟨by simp, h.isPlain.word⟩, h.ne_nil, h.closed⟩

/-- Whether a word begins with a setting of the row counter. -/
def setsCounter (p : PaddedWord) : Bool := (behindSetting? p.word).isSome

/-- A word without the row counter, of whose pad `cut` is left where it began with one. -/
def uncounted (cut : Text → Text) (p : PaddedWord) : PaddedWord :=
  p.passed (fun word => (behindSetting? word).isSome) cut withoutCounter

/-- A word without the collation. -/
def uncollated (p : PaddedWord) : PaddedWord :=
  p.passed (fun word => (setting? "COLLATE=" wordTest.accepts word).isSome) cutSpace
    withoutCollation

/-- What is compared of a word. -/
def compared (p : PaddedWord) : PaddedWord := (p.uncounted cutSpace).uncollated

/-- What is compared of a word once the row counter is gone. -/
def targeted (p : PaddedWord) : PaddedWord := (p.uncounted fun _ => []).uncollated

theorem word_targeted (p : PaddedWord) : p.targeted.word = p.compared.word := rfl

variable {p : PaddedWord} {cut : Text → Text}

theorem IsPlain.uncounted (h : p.IsPlain) (hcut : ∀ c ∈ cut p.pad, isBlank c = true) :
    (p.uncounted cut).IsPlain where
  pad := by
    rw [PaddedWord.uncounted, passed]
    split
    · exact hcut
    · exact h.pad
  word c hc := h.word c ((withoutCounter_sublist _).subset hc)

theorem IsPlain.uncollated (h : p.IsPlain) : p.uncollated.IsPlain where
  pad := by
    rw [PaddedWord.uncollated, passed]
    split
    · exact isBlank_cutSpace h.pad
    · exact h.pad
  word c hc := h.word c (withoutSetting_subset _ hc)

theorem IsPlain.compared (h : p.IsPlain) : p.compared.IsPlain :=
  (h.uncounted (isBlank_cutSpace h.pad)).uncollated

theorem IsPlain.targeted (h : p.IsPlain) : p.targeted.IsPlain :=
  (h.uncounted (by simp)).uncollated

theorem IsPlain.head_word (h : p.IsPlain) : ∀ c ∈ p.word.head?, isBlank c = false :=
  fun c hc => h.word c (List.mem_of_mem_head? hc)

/-- What is left of a word that began with a setting begins with no part of one. -/
theorem IsClosed.head_withoutCounter (h : p.IsClosed) (hsets : p.setsCounter = true) :
    ∀ c ∈ (withoutCounter p.word).head?, partsSettings c = true := by
  obtain ⟨back, hback⟩ := Option.isSome_iff_exists.mp hsets
  have hparts : ∀ c ∈ back.head?, partsSettings c = true := h.closed [] p.word back rfl rfl hback
  have hfound : counterSetting? none p.word = some ([], back) := by
    rw [counterSetting?_of_head? h.isPlain.head_word, hback]
    rfl
  obtain ⟨used, rest, hne, hword, hused⟩ :=
    exists_of_counterSetting? (Option.isSome_iff_exists.mpr ⟨_, hfound⟩)
  obtain rfl : rest = back := (Prod.mk.inj (Option.some.inj (hused.symm.trans hfound))).2
  have hblank : ∀ c ∈ rest.head?, isBlank c = false := fun c hc =>
    h.isPlain.word c (hword ▸ List.mem_append_right _ (List.mem_of_mem_head? hc))
  rw [hword, withoutCounter_eq, withoutCounterFrom_of_some hne (hword ▸ hfound),
    head?_withoutCounterFrom_of_partsSettings hblank hparts]
  exact hparts

theorem IsPlain.head?_withoutCounter (h : p.IsPlain) (hsets : p.setsCounter = false) :
    (withoutCounter p.word).head? = p.word.head? := by
  refine head?_withoutCounterFrom ?_
  have hnone : behindSetting? p.word = none := by simpa [setsCounter] using hsets
  rw [counterSetting?_of_head? h.head_word, hnone]
  rfl

theorem IsClosed.withoutCounter_withoutCounter (h : p.IsClosed) :
    withoutCounter (withoutCounter p.word) = withoutCounter p.word :=
  withoutCounterFrom_withoutCounterFrom h.closed h.isPlain.word

/-- A word that begins with a setting is longer than what is left of it. -/
theorem IsPlain.withoutCounter_ne (h : p.IsPlain) (hsets : p.setsCounter = true) :
    withoutCounter p.word ≠ p.word := by
  obtain ⟨back, hback⟩ := Option.isSome_iff_exists.mp hsets
  have hfound : counterSetting? none p.word = some ([], back) := by
    rw [counterSetting?_of_head? h.head_word, hback]
    rfl
  obtain ⟨used, rest, hne, hword, hused⟩ :=
    exists_of_counterSetting? (Option.isSome_iff_exists.mpr ⟨_, hfound⟩)
  have hleft : withoutCounter p.word = withoutCounterFrom used.getLast? rest := by
    rw [hword] at hused ⊢
    exact withoutCounterFrom_of_some hne hused
  have hshorter : (withoutCounterFrom used.getLast? rest).length ≤ rest.length :=
    (replaceMatchesFrom_sublist
      (fun _ _ _ hfound => (suffix_of_counterSetting? hfound).1) ..).length_le
  intro hself
  have hlength := congrArg List.length hword
  have hpositive := List.length_pos_of_ne_nil hne
  rw [List.length_append, ← hself, hleft] at hlength
  omega

theorem IsClosed.setsCounter_uncounted (h : p.IsClosed) (hcut : ∀ c ∈ cut p.pad, isBlank c = true) :
    (p.uncounted cut).setsCounter = false := by
  rw [Bool.eq_false_iff]
  exact fun hsets =>
    (h.isPlain.uncounted hcut).withoutCounter_ne hsets h.withoutCounter_withoutCounter

theorem IsClosed.uncounted_uncounted (h : p.IsClosed) (hcut : ∀ c ∈ cut p.pad, isBlank c = true) :
    (p.uncounted cut).uncounted cutSpace = p.uncounted cut := by
  have hsets : (behindSetting? (withoutCounter p.word)).isSome = false :=
    h.setsCounter_uncounted hcut
  have hword : (p.uncounted cut).word = withoutCounter p.word := rfl
  conv_lhs => rw [PaddedWord.uncounted, passed, hword, hsets, h.withoutCounter_withoutCounter]
  rfl

/-- What begins with a character that is no part of a setting still does without the counter. -/
theorem IsClosed.head_uncounted (h : p.IsClosed) (hcut : ∀ c ∈ cut p.pad, isBlank c = true)
    (hhead : ∀ c ∈ p.text.head?, partsSettings c = true) :
    ∀ c ∈ (p.uncounted cut).text.head?, partsSettings c = true := by
  cases hsets : p.setsCounter with
  | false =>
      have hpad : (p.uncounted cut).pad = p.pad := if_neg (Bool.eq_false_iff.mp hsets)
      have hsame : (p.uncounted cut).text.head? = p.text.head? := by
        rw [text, text, List.head?_append, List.head?_append, hpad,
          ← h.isPlain.head?_withoutCounter hsets]
        rfl
      rwa [hsame]
  | true =>
      have hpad : (p.uncounted cut).pad = cut p.pad := if_pos hsets
      rw [text, hpad]
      cases hleft : cut p.pad with
      | nil => exact h.head_withoutCounter hsets
      | cons d pad =>
          rintro c ⟨⟩
          exact partsSettings_of_isBlank (hcut d (by simp [hleft]))

theorem targeted_eq_compared (h : p.setsCounter = false) : p.targeted = p.compared := by
  have hnot : (behindSetting? p.word).isSome = false := h
  simp only [compared, targeted, uncounted, passed, hnot]
  rfl

theorem pad_targeted (h : p.setsCounter = true) : p.targeted.pad = [] := by
  have hbegins : (behindSetting? p.word).isSome = true := h
  rw [targeted, uncollated, passed, uncounted, passed, hbegins]
  exact ite_self []

theorem IsClosed.pad_compared (h : p.IsClosed) (hsets : p.setsCounter = true) :
    p.compared.pad = cutSpace p.pad := by
  have hbegins : (behindSetting? p.word).isSome = true := hsets
  have hnone : setting? "COLLATE=" wordTest.accepts (p.uncounted cutSpace).word = none := by
    change setting? "COLLATE=" wordTest.accepts (withoutCounter p.word) = none
    cases hword : withoutCounter p.word with
    | nil => rfl
    | cons c word =>
        have hc := h.head_withoutCounter hsets c (by simp [hword])
        exact setting?_of_partsSettings stopsApart_collation hc word
  rw [compared, uncollated, passed, hnone, uncounted, passed, hbegins]
  rfl

theorem length_targeted_le (p : PaddedWord) : p.targeted.text.length ≤ p.compared.text.length := by
  cases hsets : p.setsCounter with
  | false => rw [targeted_eq_compared hsets]
  | true =>
      rw [text, text, pad_targeted hsets, word_targeted, List.length_append, List.length_append]
      exact Nat.add_le_add_right (Nat.zero_le _) _

/-- A word that begins with a setting has no pad once it is gone, but had blanks cut off before. -/
theorem IsClosed.compared_eq_targeted_iff (h : p.IsClosed) :
    p.compared.text = p.targeted.text ↔ (p.setsCounter = true → cutSpace p.pad = []) := by
  rw [text, text, word_targeted, List.append_cancel_right_eq]
  cases hsets : p.setsCounter with
  | false => simp [targeted_eq_compared hsets]
  | true =>
      rw [pad_targeted hsets, h.pad_compared hsets]
      exact ⟨fun hnil _ => hnil, fun hnil => hnil rfl⟩

end PaddedWord

/-! ## Texts of words -/

section

variable {padded : List PaddedWord} {cut : Text → Text}

theorem AreApart.uncounted (h : AreApart padded) (hclosed : ∀ p ∈ padded, p.IsClosed)
    (hcut : ∀ p ∈ padded, ∀ c ∈ cut p.pad, isBlank c = true) :
    AreApart (padded.map (·.uncounted cut)) where
  isPlain := List.forall_mem_map.mpr fun p hp => (h.isPlain p hp).uncounted (hcut p hp)
  padded := by
    rw [← List.map_tail]
    constructor
    · exact List.forall_mem_map.mpr fun p hp =>
        (h.padded.isPlain p hp).uncounted (hcut p (List.mem_of_mem_tail hp))
    · refine List.forall_mem_map.mpr fun p hp => ?_
      have hmem := List.mem_of_mem_tail hp
      exact (hclosed p hmem).head_uncounted (hcut p hmem) (h.padded.head p hp)

theorem withoutSpacedCounter_layOut (h : AreApart padded) :
    withoutSpacedCounter (layOut padded) = layOut (padded.map (·.uncounted cutSpace)) := by
  rw [withoutSpacedCounter, withoutSetting_layOut stopsApart_counter h]
  refine congrArg layOut (List.map_congr_left fun p hp => ?_)
  simp only [PaddedWord.uncounted, PaddedWord.passed, setting?_eq_behindSetting?,
    withoutSetting_eq_withoutCounter (h.isPlain p hp).word]

/-- What is compared of words. -/
theorem normalOptions_layOut (h : AreApart padded) (hclosed : ∀ p ∈ padded, p.IsClosed) :
    normalOptions (layOut padded) = trim (layOut (padded.map (·.compared))) := by
  have hapart := h.uncounted hclosed fun p hp => isBlank_cutSpace (h.isPlain p hp).pad
  rw [normalOptions, withoutSpacedCounter_layOut h, withoutCollation,
    withoutSetting_layOut stopsApart_collation hapart, List.map_map]
  rfl

/-- What is compared of words from which the row counter is gone. -/
theorem normalOptions_withoutCounter_layOut (h : AreApart padded)
    (hclosed : ∀ p ∈ padded, p.IsClosed) :
    normalOptions (withoutCounter (layOut padded)) = trim (layOut (padded.map (·.targeted))) := by
  let cut : Text → Text := fun _ => []
  have hcut : ∀ p ∈ padded, ∀ c ∈ cut p.pad, isBlank c = true := by simp [cut]
  have hapart := h.uncounted hclosed hcut
  have hself : (padded.map (·.uncounted cut)).map (·.uncounted cutSpace) =
      padded.map (·.uncounted cut) := by
    rw [List.map_map]
    exact List.map_congr_left fun p hp => (hclosed p hp).uncounted_uncounted (hcut p hp)
  have hleft : withoutCounter (layOut padded) = layOut (padded.map (·.uncounted cut)) :=
    withoutCounter_layOut h fun p hp => (hclosed p hp).ne_nil
  rw [hleft, normalOptions, withoutSpacedCounter_layOut hapart, hself, withoutCollation,
    withoutSetting_layOut stopsApart_collation hapart, List.map_map]
  rfl

/-- Something of words is compared. -/
def SomeCompared (padded : List PaddedWord) : Prop := ∃ p ∈ padded, p.compared.word ≠ []

theorem exists_map_compared :
    (∃ q ∈ padded.map (·.compared), q.word ≠ []) ↔ SomeCompared padded := by
  simp [SomeCompared]

theorem exists_map_targeted :
    (∃ q ∈ padded.map (·.targeted), q.word ≠ []) ↔ SomeCompared padded := by
  simp [SomeCompared, PaddedWord.word_targeted]

theorem words_of_not_someCompared (h : ¬ SomeCompared padded) :
    (∀ q ∈ padded.map (·.compared), q.word = []) ∧
      ∀ q ∈ padded.map (·.targeted), q.word = [] := by
  simpa [SomeCompared, PaddedWord.word_targeted] using h

/-- The row counter leaves no blanks in front, up to the last word that is compared. -/
def LeavesNoBlanks (padded : List PaddedWord) : Prop :=
  ∀ front p back, padded = front ++ p :: back → p.setsCounter = true → SomeCompared (p :: back) →
    cutSpace p.pad = []

theorem leavesNoBlanks_cons {p : PaddedWord} : LeavesNoBlanks (p :: padded) ↔
    (p.setsCounter = true → SomeCompared (p :: padded) → cutSpace p.pad = []) ∧
      LeavesNoBlanks padded := by
  constructor
  · intro h
    exact ⟨h [] p padded rfl, fun front q back heq => h (p :: front) q back (by rw [heq]; rfl)⟩
  · rintro ⟨hfirst, hrest⟩ front q back heq
    rcases List.cons_eq_append_iff.mp heq with ⟨rfl, hq⟩ | ⟨inside, rfl, hinside⟩
    · obtain ⟨rfl, rfl⟩ := List.cons.inj hq
      exact hfirst
    · exact hrest inside q back hinside

theorem isPlain_map_compared (hclosed : ∀ p ∈ padded, p.IsClosed) :
    ∀ q ∈ padded.map (·.compared), q.IsPlain :=
  List.forall_mem_map.mpr fun p hp => (hclosed p hp).isPlain.compared

theorem isPlain_map_targeted (hclosed : ∀ p ∈ padded, p.IsClosed) :
    ∀ q ∈ padded.map (·.targeted), q.IsPlain :=
  List.forall_mem_map.mpr fun p hp => (hclosed p hp).isPlain.targeted

theorem length_trimRight_targeted_le (hclosed : ∀ p ∈ padded, p.IsClosed) :
    (trimRight (layOut (padded.map (·.targeted)))).length ≤
      (trimRight (layOut (padded.map (·.compared)))).length := by
  induction padded with
  | nil => exact le_rfl
  | cons p padded ih =>
      have htargeted := isPlain_map_targeted hclosed
      by_cases hsome : SomeCompared (p :: padded)
      · have hrest := ih (List.forall_mem_cons.mp hclosed).2
        have hright := trimRight_layOut_cons htargeted (exists_map_targeted.mpr hsome)
        have hleft := trimRight_layOut_cons (isPlain_map_compared hclosed)
          (exists_map_compared.mpr hsome)
        rw [List.map_cons, List.map_cons, hright, hleft, List.length_append, List.length_append]
        exact Nat.add_le_add p.length_targeted_le hrest
      · rw [trimRight_layOut_of_nil htargeted (words_of_not_someCompared hsome).2]
        exact Nat.zero_le _

/-- Behind something that is compared, both come to the same if no blanks are left over. -/
theorem trimRight_layOut_eq_iff (hclosed : ∀ p ∈ padded, p.IsClosed) :
    trimRight (layOut (padded.map (·.compared))) = trimRight (layOut (padded.map (·.targeted))) ↔
      LeavesNoBlanks padded := by
  induction padded with
  | nil => simp [LeavesNoBlanks]
  | cons p padded ih =>
      obtain ⟨hp, hrest⟩ := List.forall_mem_cons.mp hclosed
      have htargeted := isPlain_map_targeted hclosed
      have hcompared := isPlain_map_compared hclosed
      by_cases hsome : SomeCompared (p :: padded)
      · have hleft := trimRight_layOut_cons hcompared (exists_map_compared.mpr hsome)
        have hright := trimRight_layOut_cons htargeted (exists_map_targeted.mpr hsome)
        rw [leavesNoBlanks_cons, ← ih hrest, List.map_cons, List.map_cons, hleft, hright,
          forall_comm, forall_prop_of_true hsome, ← hp.compared_eq_targeted_iff]
        constructor
        · intro heq
          -- neither part is shorter, so both have the same length
          have hlengths := congrArg List.length heq
          have hword := p.length_targeted_le
          have hmore := length_trimRight_targeted_le hrest
          simp only [List.length_append] at hlengths
          exact List.append_inj heq (by omega)
        · rintro ⟨hword, hmore⟩
          rw [hword, hmore]
      · obtain ⟨hnone, hnone'⟩ := words_of_not_someCompared hsome
        rw [trimRight_layOut_of_nil hcompared hnone, trimRight_layOut_of_nil htargeted hnone']
        refine iff_of_true rfl fun front q back heq hq hlater => absurd ?_ hsome
        obtain ⟨r, hr, hne⟩ := hlater
        exact ⟨r, heq ▸ List.mem_append_right front hr, hne⟩

/-- Between words of which something is compared, the row counter leaves no blanks in front. -/
def LeavesNoBlanksBetween (padded : List PaddedWord) : Prop :=
  ∀ front p back, padded = front ++ p :: back → p.setsCounter = true → SomeCompared front →
    SomeCompared (p :: back) → cutSpace p.pad = []

theorem leavesNoBlanksBetween_cons_of_nil {p : PaddedWord} (h : p.compared.word = []) :
    LeavesNoBlanksBetween (p :: padded) ↔ LeavesNoBlanksBetween padded := by
  constructor
  · rintro hall front q back rfl hq ⟨r, hr, hne⟩ hlater
    exact hall (p :: front) q back rfl hq ⟨r, List.mem_cons_of_mem p hr, hne⟩ hlater
  · rintro hall front q back heq hq ⟨r, hr, hne⟩ hlater
    rcases List.cons_eq_append_iff.mp heq with ⟨rfl, -⟩ | ⟨inside, rfl, hinside⟩
    · cases hr
    · rcases List.mem_cons.mp hr with rfl | hr
      · exact absurd h hne
      · exact hall inside q back hinside hq ⟨r, hr, hne⟩ hlater

theorem leavesNoBlanksBetween_cons_of_ne_nil {p : PaddedWord} (h : p.compared.word ≠ []) :
    LeavesNoBlanksBetween (p :: padded) ↔ LeavesNoBlanks padded := by
  constructor
  · rintro hall front q back rfl hq hlater
    exact hall (p :: front) q back rfl hq ⟨p, by simp, h⟩ hlater
  · rintro hall front q back heq hq ⟨r, hr, hne⟩ hlater
    rcases List.cons_eq_append_iff.mp heq with ⟨rfl, -⟩ | ⟨inside, rfl, hinside⟩
    · cases hr
    · exact hall inside q back hinside hq hlater

theorem trim_layOut_eq_iff (hclosed : ∀ p ∈ padded, p.IsClosed) :
    trim (layOut (padded.map (·.compared))) = trim (layOut (padded.map (·.targeted))) ↔
      LeavesNoBlanksBetween padded := by
  induction padded with
  | nil => simp [LeavesNoBlanksBetween]
  | cons p padded ih =>
      obtain ⟨hp, hrest⟩ := List.forall_mem_cons.mp hclosed
      by_cases hword : p.compared.word = []
      · have hcompared : p.compared.text = p.compared.pad := by
          rw [PaddedWord.text, hword, List.append_nil]
        have htargeted : p.targeted.text = p.targeted.pad := by
          rw [PaddedWord.text, PaddedWord.word_targeted, hword, List.append_nil]
        rw [leavesNoBlanksBetween_cons_of_nil hword, ← ih hrest, List.map_cons, List.map_cons,
          layOut_cons, layOut_cons, hcompared, htargeted, trim_blank_append hp.isPlain.compared.pad,
          trim_blank_append hp.isPlain.targeted.pad]
      · have hcompared := trim_layOut_cons (isPlain_map_compared hclosed) hword
        have htargeted := trim_layOut_cons (isPlain_map_targeted hclosed) hword
        rw [leavesNoBlanksBetween_cons_of_ne_nil hword, ← trimRight_layOut_eq_iff hrest,
          List.map_cons, List.map_cons, hcompared, htargeted, PaddedWord.word_targeted,
          List.append_cancel_left_eq]

/-- Each word of a text whose settings are closed has closed ones. -/
theorem isClosed_of_layOut (h : AreApart padded) (hne : ∀ p ∈ padded, p.word ≠ [])
    (hclosed : CountersClosed (layOut padded)) : ∀ p ∈ padded, p.IsClosed := by
  intro p hp
  refine ⟨h.isPlain p hp, hne p hp, ?_⟩
  obtain ⟨front, back, rfl⟩ := List.append_of_mem hp
  have hback : ∀ c ∈ (layOut back).head?, partsSettings c = true :=
    h.append_right.padded.head?_layOut
  have htext : layOut (front ++ p :: back) =
      layOut front ++ (p.pad ++ (p.word ++ layOut back)) := by
    rw [layOut_append, layOut_cons, PaddedWord.text, List.append_assoc]
  rw [CountersClosed, htext] at hclosed
  refine (hclosed.append_right.append_right.append_left hback).congr ?_
  cases hlast : p.pad.getLast? with
  | some c =>
      exact .inl (startsWord_of_isBlank ((h.isPlain p hp).pad c (List.mem_of_mem_getLast? hlast)))
  | none =>
      obtain hpad : p.pad = [] := List.getLast?_eq_none_iff.mp hlast
      have hword : p.text = p.word := by rw [PaddedWord.text, hpad, List.nil_append]
      cases front with
      | nil => exact .inl rfl
      | cons first front => exact .inr (hword ▸ h.padded.head p (by simp))

theorem normalOptions_layOut_ne_nil (h : AreApart padded) (hclosed : ∀ p ∈ padded, p.IsClosed) :
    normalOptions (layOut padded) ≠ [] ↔ SomeCompared padded := by
  rw [normalOptions_layOut h hclosed, ← exists_map_compared, not_iff_comm]
  have hplain := isPlain_map_compared hclosed
  constructor
  · intro hnone
    push Not at hnone
    rw [← trim_trimRight, trimRight_layOut_of_nil hplain hnone]
    rfl
  · intro hnil hsome
    have hblank : isBlankText (layOut (padded.map (·.compared))) = true := by
      rw [isBlankText_eq, hnil]
      rfl
    rw [isBlankText, List.all_eq_true] at hblank
    exact trimRight_layOut_ne_nil hplain hsome (List.rdropWhile_eq_nil_iff.mpr hblank)

/-- What is compared of a word does not depend on the blanks in front of it. -/
theorem someCompared_without_pad {p : PaddedWord} :
    SomeCompared (⟨[], p.word⟩ :: padded) ↔ SomeCompared (p :: padded) := by
  rw [SomeCompared, SomeCompared, List.exists_mem_cons_iff, List.exists_mem_cons_iff]
  rfl

/-- A text of words that are closed ends with the last one. -/
theorem getLast?_layOut (hclosed : ∀ p ∈ padded, p.IsClosed) :
    ∀ c ∈ (layOut padded).getLast?, isBlank c = false := by
  rcases List.eq_nil_or_concat padded with rfl | ⟨front, p, rfl⟩
  · simp
  · have hp := hclosed p (by simp)
    rw [List.concat_eq_append, layOut_append, layOut_cons, layOut_nil, List.append_nil,
      PaddedWord.text, ← List.append_assoc, List.getLast?_append_of_ne_nil _ hp.ne_nil]
    exact fun c hc => hp.isPlain.word c (List.mem_of_mem_getLast? hc)

end

/-- Wherever a setting of the row counter stands between things that are compared, one space is in
front of it, or nothing. -/
def CountersSpaced (text : Text) : Prop :=
  ∀ front pad rest, text = front ++ (pad ++ rest) → (∀ c ∈ front.getLast?, isBlank c = false) →
    (∀ c ∈ pad, isBlank c = true) → pad ≠ [] → (behindSetting? rest).isSome = true →
      normalOptions front ≠ [] → normalOptions rest ≠ [] → pad = [' ']

theorem cutSpace_eq_nil {pad : Text} (hne : pad ≠ []) : cutSpace pad = [] ↔ pad = [' '] := by
  constructor
  · intro h
    rw [cutSpace] at h
    split at h
    · rename_i hlast
      obtain ⟨_, heq⟩ := List.getLast?_eq_some_iff.mp hlast
      rw [heq, List.dropLast_concat] at h
      rw [heq, h, List.nil_append]
    · exact absurd h hne
  · rintro rfl
    rfl

theorem isSome_behindSetting?_append {rest : Text}
    (hrest : ∀ c ∈ rest.head?, partsSettings c = true) (text : Text) :
    (behindSetting? (text ++ rest)).isSome = (behindSetting? text).isSome := by
  cases rest with
  | nil => rw [List.append_nil]
  | cons stop rest =>
      have hstop := (endsSetting_of_partsSettings (hrest stop rfl)).stopsAt
      rw [hstop.append, Option.isSome_map]

/-- What is compared in front of a word and from it on, and what the latter begins with. -/
theorem compared_around {before back : List PaddedWord} {p : PaddedWord}
    (hapart : AreApart (before ++ p :: back)) (hclosed : ∀ q ∈ before ++ p :: back, q.IsClosed) :
    (normalOptions (layOut before) ≠ [] ↔ SomeCompared before) ∧
      (normalOptions (p.word ++ layOut back) ≠ [] ↔ SomeCompared (p :: back)) ∧
      ((behindSetting? (p.word ++ layOut back)).isSome = true ↔ p.setsCounter = true) := by
  obtain ⟨hbefore, hbehind⟩ := List.forall_mem_append.mp hclosed
  obtain ⟨hp, hback⟩ := List.forall_mem_cons.mp hbehind
  have hpadded : ArePadded back := hapart.append_right.padded
  refine ⟨normalOptions_layOut_ne_nil hapart.append_left hbefore, ?_, ?_⟩
  · have hself : p.word ++ layOut back = layOut (⟨[], p.word⟩ :: back) := rfl
    rw [hself, normalOptions_layOut_ne_nil hapart.append_right.without_pad
      (List.forall_mem_cons.mpr ⟨hp.without_pad, hback⟩), someCompared_without_pad]
  · rw [isSome_behindSetting?_append hpadded.head?_layOut]
    exact Iff.rfl

/-- A setting does not begin with a blank. -/
theorem head?_of_isSome_behindSetting? {text : Text} (h : (behindSetting? text).isSome = true) :
    ∀ c ∈ text.head?, isBlank c = false := by
  cases text with
  | nil => cases h
  | cons c text =>
      rintro d ⟨⟩
      rw [Bool.eq_false_iff]
      intro hc
      rw [behindSetting?_cons (endsSetting_of_isBlank hc)] at h
      cases h

/-- The two passes are compared word by word. -/
theorem normalOptions_withoutCounter_layOut_iff {padded : List PaddedWord}
    (hapart : AreApart padded) (hwords : ∀ p ∈ padded, p.IsClosed) :
    normalOptions (trim (withoutCounter (layOut padded))) = normalOptions (layOut padded) ↔
      LeavesNoBlanksBetween padded := by
  rw [normalOptions_trim, normalOptions_withoutCounter_layOut hapart hwords,
    normalOptions_layOut hapart hwords, eq_comm, trim_layOut_eq_iff hwords]

/-- Options without the row counter are the same to the comparison just if there is one space in
front of each setting of it that stands between things that are compared. -/
theorem normalOptions_withoutCounter_iff {text : Text} (htrim : trim text = text)
    (hclosed : CountersClosed text) :
    normalOptions (trim (withoutCounter text)) = normalOptions text ↔ CountersSpaced text := by
  have hlast : ∀ c ∈ text.getLast?, isBlank c = false := htrim ▸ getLast?_trim
  constructor
  · intro hsame front pad rest htext hfront hpad hne hsets hbefore hbehind
    have hrest : rest ≠ [] := by
      rintro rfl
      cases hsets
    have hrestLast : ∀ c ∈ rest.getLast?, isBlank c = false := by
      rw [htext, ← List.append_assoc, List.getLast?_append_of_ne_nil _ hrest] at hlast
      exact hlast
    obtain ⟨before, word, back, rfl, rfl, hapart, hnonempty⟩ :=
      exists_layOut_around hfront hpad hne hrest (head?_of_isSome_behindSetting? hsets) hrestLast
    have hwhole : text = layOut (before ++ ⟨pad, word⟩ :: back) := by
      rw [htext, layOut_append, layOut_cons, PaddedWord.text, List.append_assoc]
    have hwords := isClosed_of_layOut hapart hnonempty (hwhole ▸ hclosed)
    obtain ⟨hbeforeIff, hbehindIff, hsetsIff⟩ := compared_around hapart hwords
    rw [hwhole, normalOptions_withoutCounter_layOut_iff hapart hwords] at hsame
    exact (cutSpace_eq_nil hne).mp (hsame before _ back rfl (hsetsIff.mp hsets)
      (hbeforeIff.mp hbefore) (hbehindIff.mp hbehind))
  · intro hspaced
    obtain ⟨padded, htext, hapart, hne⟩ := exists_layOut hlast
    have hwords := isClosed_of_layOut hapart hne (htext ▸ hclosed)
    rw [htext, normalOptions_withoutCounter_layOut_iff hapart hwords]
    intro front p back heq hsets hbefore hbehind
    subst heq
    obtain ⟨hbeforeIff, hbehindIff, hsetsIff⟩ := compared_around hapart hwords
    by_cases hpad : p.pad = []
    · rw [hpad]
      rfl
    · refine (cutSpace_eq_nil hpad).mpr (hspaced (layOut front) p.pad (p.word ++ layOut back) ?_
        (getLast?_layOut (List.forall_mem_append.mp hwords).1) (hapart.isPlain p (by simp)).pad hpad
        (hsetsIff.mpr hsets) (hbeforeIff.mpr hbefore) (hbehindIff.mpr hbehind))
      rw [htext, layOut_append, layOut_cons, PaddedWord.text, List.append_assoc]

end SchemaMigration
