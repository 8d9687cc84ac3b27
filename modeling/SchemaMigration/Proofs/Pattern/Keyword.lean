import SchemaMigration.Pattern.CharacterTest
import SchemaMigration.Proofs.Text.Recogniser

/-!
# Keywords in patterns

The letters of a keyword that stands in a pattern, where case is ignored, are tested one by one. The
characters that pass the test of a letter are those that spell it.

## Main Definitions

* `mem_lowerSources` - a character is among those whose lower case it has
* `sourcesOf` - the characters that may pass for another one if case is ignored
* `letterTest` - the test for a letter of a keyword
* `SpellsAlike` - of the few characters in question, those pass that spell the letter
* `accepts_letterTest` - so it is for all characters
-/

namespace SchemaMigration

open Text

namespace Text

/-- Whether a run maps all its code points to code points of characters. -/
def CaseRun.isValid (run : CaseRun) : Bool :=
  0 ≤ run.first + run.shift && (run.last + run.shift < 0xD800 ||
    (0xE000 ≤ run.first + run.shift && run.last + run.shift < 0x110000))

set_option maxRecDepth 10000 in
theorem isValid_lowerRuns : lowerRuns.all (·.isValid) = true := by decide +kernel

theorem toNat_ofNat_of_isValidChar {n : Nat} (h : n.isValidChar) : (Char.ofNat n).toNat = n := by
  rw [Char.ofNat, dif_pos h]
  rfl

theorem toNat_image {run : CaseRun} (hrun : run ∈ lowerRuns) {n : Nat} (hhas : run.has n = true) :
    ((run.image n).toNat : Int) = n + run.shift := by
  have hvalid := List.all_eq_true.mp isValid_lowerRuns run hrun
  simp only [CaseRun.isValid, Bool.and_eq_true, Bool.or_eq_true, decide_eq_true_eq] at hvalid
  simp only [CaseRun.has, Bool.and_eq_true, decide_eq_true_eq, beq_iff_eq] at hhas
  have hchar : (n + run.shift).toNat.isValidChar := by
    simp only [Nat.isValidChar]
    omega
  rw [CaseRun.image, toNat_ofNat_of_isValidChar hchar]
  omega

theorem mem_lowerSources (c : Char) : c ∈ lowerSources (lowerCharacter c) := by
  rw [lowerCharacter]
  split
  · rename_i hsmall
    have htable : (List.range 0x80).all fun code =>
        (lowerSources (Char.ofNat code).toLower).contains (Char.ofNat code) := by decide +kernel
    have hmem := List.all_eq_true.mp htable c.toNat (List.mem_range.mpr hsmall)
    rw [Char.ofNat_toNat] at hmem
    exact List.contains_iff_mem.mp hmem
  · split
    · rename_i run hfind
      have hrun := List.mem_of_find?_eq_some hfind
      have hhas : run.has c.toNat = true := by simpa using List.find?_some hfind
      refine List.mem_cons_of_mem _ (List.mem_filterMap.mpr ⟨run, hrun, ?_⟩)
      have hcode : (((run.image c.toNat).toNat : Int) - run.shift).toNat = c.toNat := by
        rw [toNat_image hrun hhas]
        omega
      simp only [hcode, hhas, if_true, Char.ofNat_toNat]
    · exact List.mem_cons_self

/-- The characters whose lower case is the given character or differs from it by case alone. -/
def foldedSources (c : Char) : List Char :=
  lowerSources c ++ (caseVariantTable.filter fun entry => c ∈ entry.2.map Char.ofNat).flatMap
    fun entry => lowerSources (Char.ofNat entry.1)

theorem mem_foldedSources_of_mem_caseVariants {c d : Char}
    (h : d ∈ caseVariants (lowerCharacter c)) : c ∈ foldedSources d := by
  rw [caseVariants] at h
  cases hlookup : caseVariantTable.lookup (lowerCharacter c).toNat with
  | none => simp [hlookup] at h
  | some codes =>
      rw [hlookup, Option.getD_some] at h
      obtain ⟨front, back, heq, -⟩ := List.lookup_eq_some_iff.mp hlookup
      have hentry : ((lowerCharacter c).toNat, codes) ∈ caseVariantTable := by simp [heq]
      refine List.mem_append_right _
        (List.mem_flatMap.mpr ⟨((lowerCharacter c).toNat, codes), ?_, ?_⟩)
      · exact List.mem_filter.mpr ⟨hentry, decide_eq_true h⟩
      · rw [Char.ofNat_toNat]
        exact mem_lowerSources c

end Text

/-- The characters that may pass for one if case is ignored. -/
def sourcesOf (letter : Char) : List Char := letter :: foldedSources (lowerCharacter letter)

/-- The test for a letter of a keyword, letter case ignored. -/
def letterTest (letter : Char) : CharacterTest := .ofCharacter ['i'] false letter.toNat

/-- A character passes the test of a letter only if it is one of few. -/
theorem mem_sourcesOf_of_accepts {letter c : Char}
    (hlower : lowerCharacter (lowerCharacter letter) = lowerCharacter letter)
    (h : (letterTest letter).accepts c = true) : c ∈ sourcesOf letter := by
  have hfold (d : Char) : Folding.full.foldCode d.toNat = (lowerCharacter d).toNat := by
    rw [Folding.foldCode, if_pos (by exact d.valid), Char.ofNat_toNat]
    rfl
  have hflags : Folding.ofFlags ['i'] = .full := rfl
  rw [letterTest, CharacterTest.ofCharacter, hflags] at h
  simp only [hfold] at h
  split at h
  · have hsame : c = letter := by
      rw [← Char.toNat_inj]
      simpa [CharacterTest.accepts, Folding.fold] using h
    exact hsame ▸ List.mem_cons_self
  · refine List.mem_cons_of_mem _ ?_
    split at h
    · have hsame : lowerCharacter c = lowerCharacter letter := by
        rw [← Char.toNat_inj]
        simpa [CharacterTest.accepts, Folding.fold] using h
      exact List.mem_append_left _ (hsame ▸ mem_lowerSources c)
    · have hhas : ClassItem.has .full (Flags.has ['i'] 'a') (lowerCharacter c)
          (.single (lowerCharacter letter).toNat) = true := by
        simpa [CharacterTest.accepts, Folding.fold] using h
      rw [ClassItem.has, hfold, hlower] at hhas
      have hsource (hsame : (lowerCharacter c).toNat = (lowerCharacter letter).toNat) :
          c ∈ foldedSources (lowerCharacter letter) :=
        List.mem_append_left _ (Char.toNat_inj.mp hsame ▸ mem_lowerSources c)
      split at hhas
      · exact hsource (by simpa using hhas)
      · rw [Bool.or_eq_true] at hhas
        rcases hhas with hsame | hvariant
        · exact hsource (by simpa using hsame)
        · obtain ⟨d, hd, hcode⟩ := List.any_eq_true.mp hvariant
          obtain rfl : d = lowerCharacter letter := Char.toNat_inj.mp (by simpa using hcode)
          exact mem_foldedSources_of_mem_caseVariants hd

/-- Of the few characters that may pass the test of a letter, exactly those pass that spell it. -/
def SpellsAlike (letter : Char) : Prop :=
  lowerCharacter (lowerCharacter letter) = lowerCharacter letter ∧
    ∀ c ∈ sourcesOf letter ++ spellings letter,
      (letterTest letter).accepts c = spells letter c

instance (letter : Char) : Decidable (SpellsAlike letter) :=
  inferInstanceAs (Decidable (_ ∧ _))

/-- So it is for all characters. -/
theorem accepts_letterTest {letter : Char} (h : SpellsAlike letter) (c : Char) :
    (letterTest letter).accepts c = spells letter c := by
  obtain ⟨hlower, hfew⟩ := h
  by_cases hmem : c ∈ sourcesOf letter ++ spellings letter
  · exact hfew c hmem
  · rw [List.mem_append, not_or] at hmem
    have haccepts : (letterTest letter).accepts c = false := by
      rw [Bool.eq_false_iff]
      exact fun h => hmem.1 (mem_sourcesOf_of_accepts hlower h)
    have hspells : spells letter c = false := by
      rw [Bool.eq_false_iff]
      exact fun h => hmem.2 (mem_spellings.mpr h)
    rw [haccepts, hspells]

/-- The letters of the keywords in the rules for table options. -/
theorem spellsAlike_optionKeywords :
    ∀ letter ∈ "AUTO_INCREMENT=".toList ++ "COLLATE=".toList, SpellsAlike letter := by
  decide +kernel

end SchemaMigration
