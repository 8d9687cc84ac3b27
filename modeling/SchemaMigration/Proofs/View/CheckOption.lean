import SchemaMigration.Proofs.Table.Line
import SchemaMigration.Proofs.Text.Ending
import SchemaMigration.Proofs.Text.Phrase
import SchemaMigration.View

/-!
# Check options

A view definition ends with a check option, which may be missing, and at most one semicolon. The
query is the shortest text in front of such an ending, so it neither ends with a blank nor, unless a
check option follows, with what would be read as one. That is enough for the same query to be found
in front of the ending that a statement writes.

## Main Definitions

* `View.IsCheckOption`, `View.IsCheckClause` - the texts that are read as a check option
* `View.checkOption?_eq_some` - where a check option is read
* `View.IsQuery` - what stands in front of an ending
* `View.IsQuery.splitAtSuffix?_checkClause` - such a query is found in front of what is written
-/

namespace SchemaMigration.View

open Text

/-- The keywords of the check options. -/
def checkOptions : List (List Text) :=
  [["CHECK", "OPTION"], ["CASCADED", "CHECK", "OPTION"], ["LOCAL", "CHECK", "OPTION"]]

/-- A check option in any layout and letter case. -/
def IsCheckOption (option : Text) : Prop := ∃ keywords ∈ checkOptions, IsPhrase keywords option

/-- A check option with the keyword and the blanks in front of it. -/
def IsCheckClause (option clause : Text) : Prop :=
  IsCheckOption option ∧ ∃ gap word behind, IsGap gap ∧ IsSpelling "WITH" word ∧ IsGap behind ∧
    clause = gap ++ (word ++ (behind ++ option))

theorem isKeyword_of_mem_checkOptions {keywords : List Text} (h : keywords ∈ checkOptions) :
    ∀ keyword ∈ keywords, IsKeyword keyword := by
  have htable : ∀ keywords ∈ checkOptions, ∀ keyword ∈ keywords, IsKeyword keyword := by decide
  exact htable keywords h

section

variable {option clause text rest : Text}

theorem IsCheckOption.ne_nil (h : IsCheckOption option) : option ≠ [] := by
  obtain ⟨keywords, hmem, hphrase⟩ := h
  exact hphrase.ne_nil (isKeyword_of_mem_checkOptions hmem)

theorem IsCheckOption.head? (h : IsCheckOption option) (rest : Text) :
    ∀ c ∈ (option ++ rest).head?, isBlank c = false := by
  obtain ⟨keywords, hmem, hphrase⟩ := h
  exact hphrase.head? (isKeyword_of_mem_checkOptions hmem) rest

theorem IsCheckOption.getLast? (h : IsCheckOption option) :
    ∀ c ∈ option.getLast?, isWordCharacter c = true := by
  obtain ⟨keywords, hmem, hphrase⟩ := h
  exact hphrase.getLast? (isKeyword_of_mem_checkOptions hmem)

theorem IsCheckOption.upper_squash (h : IsCheckOption option) :
    IsCheckOption (upper (squash option)) := by
  obtain ⟨keywords, hmem, hphrase⟩ := h
  exact ⟨keywords, hmem, hphrase.upper_squash (isKeyword_of_mem_checkOptions hmem)⟩

/-- `WITH` is no word of a check option. -/
theorem IsCheckOption.with_notMem (h : IsCheckOption option) :
    ("WITH" : Text) ∉ words option := by
  obtain ⟨keywords, hmem, hphrase⟩ := h
  intro hwith
  obtain ⟨keyword, hkeyword, hspells⟩ :=
    hphrase.exists_isSpelling (isKeyword_of_mem_checkOptions hmem) hwith
  have htable : ∀ keywords ∈ checkOptions, ∀ keyword ∈ keywords,
      keyword? keyword "WITH" = none := by decide
  have hread := keyword?_eq_some.mpr ⟨_, hspells, (List.append_nil _).symm⟩
  rw [htable keywords hmem keyword hkeyword] at hread
  cases hread

/-- The scope of a check option is read with the blanks behind it. -/
theorem scope?_eq_some {behind : Text} :
    (anyKeyword? ["CASCADED", "LOCAL"] text).bind blanks? = some behind ↔
      ∃ keyword ∈ (["CASCADED", "LOCAL"] : List Text), ∃ word gap, IsSpelling keyword word ∧
        IsGap gap ∧ text = word ++ (gap ++ behind) ∧ ∀ c ∈ behind.head?, isBlank c = false := by
  have hapart : (["CASCADED", "LOCAL"] : List Text).Pairwise
      fun first second => tellApart second first = true := by decide
  rw [Option.bind_eq_some_iff]
  constructor
  · rintro ⟨inside, hany, hblanks⟩
    obtain ⟨keyword, hkeyword, hread⟩ := (anyKeyword?_eq_some hapart).mp hany
    obtain ⟨word, hword, rfl⟩ := keyword?_eq_some.mp hread
    obtain ⟨gap, hgap, rfl, hhead⟩ := blanks?_eq_some.mp hblanks
    exact ⟨keyword, hkeyword, word, gap, hword, hgap, rfl, hhead⟩
  · rintro ⟨keyword, hkeyword, word, gap, hword, hgap, rfl, hhead⟩
    exact ⟨gap ++ behind, (anyKeyword?_eq_some hapart).mpr
      ⟨keyword, hkeyword, keyword?_eq_some.mpr ⟨word, hword, rfl⟩⟩,
      blanks?_eq_some.mpr ⟨gap, hgap, rfl, hhead⟩⟩

/-- The keyword `CHECK` is not taken for a scope. -/
theorem scope?_eq_none {rest : Text} (h : IsPhrase ["CHECK", "OPTION"] option) :
    (anyKeyword? ["CASCADED", "LOCAL"] (option ++ rest)).bind blanks? = none := by
  rw [Option.eq_none_iff_forall_ne_some]
  intro behind hscope
  obtain ⟨keyword, hkeyword, word, gap, hword, -, htext, -⟩ := scope?_eq_some.mp hscope
  have htell : ∀ keyword ∈ (["CASCADED", "LOCAL"] : List Text),
      tellApart keyword "CHECK" = true := by decide
  have hcheck : keyword? "CHECK" (option ++ rest) = none :=
    keyword?_eq_none_of_tellApart (htell keyword hkeyword)
      (keyword?_eq_some.mpr ⟨word, hword, htext⟩)
  cases h with
  | @cons _ first gap _ more _ hfirst =>
      have hsome : keyword? "CHECK" (first ++ (gap ++ more) ++ rest) = some (gap ++ more ++ rest) :=
        keyword?_eq_some.mpr ⟨first, hfirst, List.append_assoc ..⟩
      rw [hcheck] at hsome
      cases hsome

/-- A check option is read behind the keyword in front of it, whatever its scope. -/
theorem scopedOption?_eq_some : keywords? ["CHECK", "OPTION"]
      (((anyKeyword? ["CASCADED", "LOCAL"] text).bind blanks?).getD text) = some rest ↔
    ∃ option, IsCheckOption option ∧ text = option ++ rest := by
  have hplain : ∀ keyword ∈ (["CHECK", "OPTION"] : List Text), IsKeyword keyword := by decide
  constructor
  · intro h
    cases hscope : (anyKeyword? ["CASCADED", "LOCAL"] text).bind blanks? with
    | none =>
        rw [hscope, Option.getD_none] at h
        obtain ⟨option, hphrase, htext⟩ := (keywords?_eq_some hplain).mp h
        exact ⟨option, ⟨_, by simp [checkOptions], hphrase⟩, htext⟩
    | some behind =>
        rw [hscope, Option.getD_some] at h
        obtain ⟨option, hphrase, rfl⟩ := (keywords?_eq_some hplain).mp h
        obtain ⟨keyword, hkeyword, word, gap, hword, hgap, rfl, -⟩ := scope?_eq_some.mp hscope
        refine ⟨word ++ (gap ++ option), ⟨_, ?_, .cons hword hgap hphrase⟩, by simp⟩
        simp only [List.mem_cons, List.not_mem_nil, or_false] at hkeyword
        rcases hkeyword with rfl | rfl <;> simp [checkOptions]
  · rintro ⟨option, ⟨keywords, hmem, hphrase⟩, rfl⟩
    have hread {option : Text} (hphrase : IsPhrase ["CHECK", "OPTION"] option) :
        keywords? ["CHECK", "OPTION"] (option ++ rest) = some rest :=
      (keywords?_eq_some hplain).mpr ⟨option, hphrase, rfl⟩
    simp only [checkOptions, List.mem_cons, List.not_mem_nil, or_false] at hmem
    rcases hmem with rfl | rfl | rfl
    · rw [scope?_eq_none hphrase, Option.getD_none, hread hphrase]
    all_goals
      cases hphrase with
      | @cons _ word gap _ more _ hword hgap hmore =>
          have hscope : (anyKeyword? ["CASCADED", "LOCAL"] (word ++ (gap ++ more) ++ rest)).bind
              blanks? = some (more ++ rest) :=
            scope?_eq_some.mpr ⟨_, by simp, word, gap, hword, hgap, by simp,
              hmore.head? hplain rest⟩
          rw [hscope, Option.getD_some, hread hmore]

/-- Where a check option is read. -/
theorem checkOption?_eq_some : checkOption? text = some (option, rest) ↔
    ∃ clause, IsCheckClause option clause ∧ text = clause ++ rest := by
  have hread : checkOption? text = ((blanks? text).bind (keyword? "WITH")).bind fun behind =>
      (blanks? behind).bind fun found =>
        (keywords? ["CHECK", "OPTION"]
          (((anyKeyword? ["CASCADED", "LOCAL"] found).bind blanks?).getD found)).map
          fun rest => (before found rest, rest) := by
    simp only [checkOption?, afterKeyword?, Option.bind_eq_bind, Option.pure_def, Option.bind_assoc,
      Option.map_eq_bind, Function.comp_def]
  rw [hread]
  constructor
  · intro h
    obtain ⟨behind, hbehind, h⟩ := Option.bind_eq_some_iff.mp h
    obtain ⟨start, hstart, hwith⟩ := Option.bind_eq_some_iff.mp hbehind
    obtain ⟨found, hfound, h⟩ := Option.bind_eq_some_iff.mp h
    obtain ⟨rest, hrest, heq⟩ := Option.map_eq_some_iff.mp h
    obtain ⟨rfl, rfl⟩ := Prod.mk.inj heq
    obtain ⟨gap, hgap, rfl, -⟩ := blanks?_eq_some.mp hstart
    obtain ⟨word, hword, rfl⟩ := keyword?_eq_some.mp hwith
    obtain ⟨second, hsecond, rfl, -⟩ := blanks?_eq_some.mp hfound
    obtain ⟨option, hoption, rfl⟩ := scopedOption?_eq_some.mp hrest
    rw [before_append]
    exact ⟨_, ⟨hoption, gap, word, second, hgap, hword, hsecond, rfl⟩, by simp⟩
  · rintro ⟨clause, ⟨hoption, gap, word, second, hgap, hword, hsecond, rfl⟩, rfl⟩
    have hkeyword : IsKeyword "WITH" := by decide
    have hstart : blanks? (gap ++ (word ++ (second ++ option)) ++ rest) =
        some (word ++ (second ++ (option ++ rest))) := by
      refine blanks?_eq_some.mpr ⟨gap, hgap, by simp, ?_⟩
      rw [List.head?_append_of_ne_nil _ (hword.ne_nil hkeyword)]
      exact fun c hc => hword.isBlank hkeyword c (List.mem_of_mem_head? hc)
    have hwith : keyword? "WITH" (word ++ (second ++ (option ++ rest))) =
        some (second ++ (option ++ rest)) := keyword?_eq_some.mpr ⟨word, hword, rfl⟩
    have hfound : blanks? (second ++ (option ++ rest)) = some (option ++ rest) :=
      blanks?_eq_some.mpr ⟨second, hsecond, rfl, hoption.head? rest⟩
    rw [hstart, Option.bind_some, hwith, Option.bind_some, hfound, Option.bind_some,
      scopedOption?_eq_some.mpr ⟨option, hoption, rfl⟩, Option.map_some, before_append]

/-! ## Endings -/

theorem isEnd_cons {c : Char} (hc : isBlank c = true) (text : Text) :
    isEnd (c :: text) = isEnd text := by
  simp [isEnd, trimLeft, hc]

/-- In front of a semicolon at the end there are only blanks. -/
theorem isBlank_of_isEnd (h : isEnd (text ++ [';']) = true) : ∀ c ∈ text, isBlank c = true := by
  by_contra hblank
  have hne : trimLeft text ≠ [] := by rwa [trimLeft, ne_eq, List.dropWhile_eq_nil_iff]
  obtain ⟨c, behind, hbehind⟩ := List.exists_cons_of_ne_nil hne
  have hc : isBlank c = false := isBlank_of_trimLeft_eq_cons hbehind
  have hsemicolon (front : Text) : isBlankText (front ++ [';']) = false := by
    have hlast : isBlank ';' = false := by decide
    simp [isBlankText, hlast]
  simp only [isEnd, trimLeft_append hne, hbehind, List.cons_append] at h
  cases hafter : after? ";" (c :: (behind ++ [';'])) with
  | none =>
      rw [hafter, Option.getD_none, ← List.cons_append, hsemicolon] at h
      cases h
  | some rest =>
      have heq : rest = behind ++ [';'] := (List.cons.inj (eq_append_of_after? hafter)).2.symm
      rw [hafter, Option.getD_some, heq, hsemicolon] at h
      cases h

theorem isSome_ending?_of_isEnd (h : isEnd text = true) : (ending? text).isSome := by
  simp [ending?, h]

theorem ending?_clause (h : IsCheckClause option clause) (hend : isEnd rest = true) :
    ending? (clause ++ rest) = some option := by
  simp [ending?, checkOption?_eq_some.mpr ⟨clause, h, rfl⟩, hend]

/-- An ending has a check option or none. -/
theorem cases_of_ending? (h : ending? text = some option) :
    (∃ clause rest, IsCheckClause option clause ∧ isEnd rest = true ∧ text = clause ++ rest) ∨
      option = [] ∧ isEnd text = true := by
  rcases eq_some_of_orElse h with hcheck | hend
  · obtain ⟨⟨found, rest⟩, hfound, hrest⟩ := Option.bind_eq_some_iff.mp hcheck
    obtain ⟨hend, heq⟩ := Option.ite_none_right_eq_some.mp hrest
    obtain rfl := Option.some.inj heq
    obtain ⟨clause, hclause, rfl⟩ := checkOption?_eq_some.mp hfound
    exact .inl ⟨clause, rest, hclause, hend, rfl⟩
  · obtain ⟨hend, heq⟩ := Option.ite_none_right_eq_some.mp hend
    exact .inr ⟨(Option.some.inj heq).symm, hend⟩

/-- Blanks in front of an ending belong to it. -/
theorem isSome_ending?_cons {c : Char} (hc : isBlank c = true) (h : (ending? text).isSome) :
    (ending? (c :: text)).isSome := by
  obtain ⟨option, hending⟩ := Option.isSome_iff_exists.mp h
  rcases cases_of_ending? hending with ⟨clause, rest, hclause, hend, rfl⟩ | ⟨-, hend⟩
  · obtain ⟨hoption, gap, word, second, hgap, hword, hsecond, rfl⟩ := hclause
    have hcons : IsGap (c :: gap) :=
      ⟨by simp, List.forall_mem_cons.mpr ⟨hc, hgap.isBlank⟩⟩
    have hmore := ending?_clause ⟨hoption, c :: gap, word, second, hcons, hword, hsecond, rfl⟩ hend
    simpa using congrArg Option.isSome hmore
  · exact isSome_ending?_of_isEnd ((isEnd_cons hc text).trans hend)

theorem IsCheckClause.getLast? (h : IsCheckClause option clause) :
    ∀ c ∈ clause.getLast?, isWordCharacter c = true := by
  obtain ⟨hoption, gap, word, second, -, -, -, rfl⟩ := h
  rw [← List.append_assoc, ← List.append_assoc, List.getLast?_append_of_ne_nil _ hoption.ne_nil]
  exact hoption.getLast?

/-- What is read as an ending in front of a semicolon is a check option, if it does not end with a
blank. -/
theorem isCheckClause_of_ending? (hne : text ≠ []) (hlast : ∀ c ∈ text.getLast?, isBlank c = false)
    (h : ending? (text ++ [';']) = some option) : IsCheckClause option text := by
  rcases cases_of_ending? h with ⟨clause, rest, hclause, hend, heq⟩ | ⟨-, hend⟩
  · rcases List.eq_nil_or_concat rest with rfl | ⟨front, c, rfl⟩
    · rw [List.append_nil] at heq
      have hword := hclause.getLast? ';' (by simp [← heq])
      exact absurd hword (by decide)
    · rw [List.concat_eq_append, ← List.append_assoc] at heq
      obtain ⟨rfl, hsemicolon⟩ := List.append_inj' heq rfl
      obtain rfl := List.singleton_inj.mp hsemicolon
      rw [List.concat_eq_append] at hend
      have hfront := isBlank_of_isEnd hend
      rcases List.eq_nil_or_concat front with rfl | ⟨inside, d, rfl⟩
      · rwa [List.append_nil]
      · have hblank := hfront d (by simp)
        rw [hlast d (by simp)] at hblank
        cases hblank
  · have hblank := isBlank_of_isEnd hend _ (List.getLast_mem hne)
    rw [hlast _ (List.getLast_mem_getLast? hne)] at hblank
    cases hblank

end

/-! ## Queries -/

/-- What stands in front of an ending with the given check option, or with none. -/
structure IsQuery (query option : Text) : Prop where
  trim_eq : trim query = query
  option_eq_nil : query = [] → option = []
  isCheckOption : option ≠ [] → IsCheckOption option
  not_isCheckClause : option = [] → ∀ inside, inside <:+ query → ∀ other,
    ¬ IsCheckClause other inside

/-- A query is parted from what follows it in the first place. -/
theorem isQuery_of_splitAtSuffix? {text query option : Text}
    (htext : ∀ c ∈ text.head?, isBlank c = false)
    (h : splitAtSuffix? ending? text = some (query, option)) : IsQuery query option := by
  have htrim : trim query = query :=
    trim_of_splitAtSuffix? (fun _ _ => isSome_ending?_cons) htext h
  obtain ⟨rest, rfl, hrest, hshortest⟩ := splitAtSuffix?_eq_some.mp h
  refine ⟨htrim, ?_, ?_, ?_⟩
  · rintro rfl
    rcases cases_of_ending? hrest with
      ⟨clause, behind, ⟨-, gap, _, _, hgap, -, -, rfl⟩, -, rfl⟩ | hnil
    · obtain ⟨c, gap, rfl⟩ := List.exists_cons_of_ne_nil hgap.ne_nil
      have hblank := hgap.isBlank c (by simp)
      rw [htext c (by simp)] at hblank
      cases hblank
    · exact hnil.1
  · intro hne
    rcases cases_of_ending? hrest with ⟨_, _, hclause, -, -⟩ | hnil
    · exact hclause.1
    · exact absurd hnil.1 hne
  · rintro rfl inside hinside other hclause
    have hend : isEnd rest = true := by
      rcases cases_of_ending? hrest with ⟨_, _, hnil, -, -⟩ | hend
      · exact absurd rfl hnil.1.ne_nil
      · exact hend.2
    have hne : inside ≠ [] := by
      obtain ⟨hoption, gap, word, second, -, -, -, rfl⟩ := hclause
      simp [hoption.ne_nil]
    have hnone := hshortest inside hne hinside
    rw [ending?_clause hclause hend] at hnone
    cases hnone

/-- The layout and the letter case of the check option do not matter. -/
theorem IsQuery.upper_squash {query option : Text} (h : IsQuery query option) :
    IsQuery query (upper (squash option)) := by
  have hnil : upper (squash option) = [] → option = [] := by
    intro hnil
    by_contra hne
    exact (h.isCheckOption hne).upper_squash.ne_nil hnil
  refine ⟨h.trim_eq, fun hquery => ?_, fun hne => ?_,
    fun hoption => h.not_isCheckClause (hnil hoption)⟩
  · rw [h.option_eq_nil hquery]
    rfl
  · refine (h.isCheckOption fun hoption => hne ?_).upper_squash
    rw [hoption]
    rfl

/-- A check option as a statement has it. -/
def checkClause (option : Text) : Text := if option.isEmpty then [] else " WITH " ++ option

theorem isCheckClause_checkClause {option : Text} (h : IsCheckOption option) :
    IsCheckClause option (checkClause option) := by
  have hclause : checkClause option = [' '] ++ ("WITH".toList ++ ([' '] ++ option)) := by
    rw [checkClause, if_neg (by simpa using h.ne_nil)]
    rfl
  exact ⟨h, [' '], "WITH", [' '], isGap_space, isSpelling_self _, isGap_space, hclause⟩

/-- Only the keyword in front of a check option is `WITH`, so nothing more is read as one. -/
theorem not_isCheckClause_append {inside option other : Text} (h : IsCheckOption option)
    (hne : inside ≠ []) (hlast : ∀ c ∈ inside.getLast?, isBlank c = false) :
    ¬ IsCheckClause other (inside ++ checkClause option) := by
  rintro ⟨hother, gap, word, second, hgap, hword, hsecond, heq⟩
  have hkeyword : IsKeyword "WITH" := by decide
  have hstart : ∀ c ∈ (second ++ other).head?, isBlank c = true := by
    rw [List.head?_append_of_ne_nil _ hsecond.ne_nil]
    exact fun c hc => hsecond.isBlank c (List.mem_of_mem_head? hc)
  have hclause : words (gap ++ (word ++ (second ++ other))) = word :: words other := by
    rw [words_gap_append hgap, words_append (hword.ne_nil hkeyword) (hword.isBlank hkeyword) hstart,
      words_gap_append hsecond]
  have hwhole : words (inside ++ checkClause option) =
      words inside ++ "WITH".toList :: words option := by
    have hcheck : inside ++ checkClause option =
        inside ++ ' ' :: ("WITH".toList ++ ' ' :: option) := by
      rw [checkClause, if_neg (by simpa using h.ne_nil)]
      rfl
    rw [hcheck, words_append_cons rfl, words_append (by decide) (by decide) (by simp; decide),
      words_cons_of_blank rfl]
  have hsome : words inside ≠ [] := by
    rw [ne_eq, words_eq_nil_iff, trim_eq_trimLeft hlast]
    exact trimLeft_ne_nil hne hlast
  obtain ⟨first, more, hfirst⟩ := List.exists_cons_of_ne_nil hsome
  rw [heq, hclause, hfirst] at hwhole
  have hmore : words other = more ++ "WITH".toList :: words option := (List.cons.inj hwhole).2
  exact hother.with_notMem (by simp [hmore])

/-- In front of the ending that a statement writes, the same query is found. -/
theorem IsQuery.splitAtSuffix?_checkClause {query option : Text} (h : IsQuery query option) :
    splitAtSuffix? ending? (query ++ (checkClause option ++ [';'])) = some (query, option) := by
  rw [splitAtSuffix?_eq_some]
  refine ⟨checkClause option ++ [';'], rfl, ?_, fun inside hne hinside => ?_⟩
  · by_cases hoption : option = []
    · rw [hoption]
      rfl
    · exact ending?_clause (isCheckClause_checkClause (h.isCheckOption hoption)) rfl
  · have hlast : ∀ c ∈ inside.getLast?, isBlank c = false := by
      obtain ⟨front, rfl⟩ := hinside
      rw [← List.getLast?_append_of_ne_nil front hne, ← h.trim_eq]
      exact getLast?_trim
    rw [Option.eq_none_iff_forall_ne_some, ← List.append_assoc]
    intro other hother
    by_cases hoption : option = []
    · have hnone : checkClause [] = [] := rfl
      rw [hoption, hnone, List.append_nil] at hother
      exact h.not_isCheckClause hoption inside hinside other
        (isCheckClause_of_ending? hne hlast hother)
    · have hcheck := h.isCheckOption hoption
      have hclause := isCheckClause_checkClause hcheck
      have hend : ∀ c ∈ (inside ++ checkClause option).getLast?, isBlank c = false := by
        have hsome : checkClause option ≠ [] := by
          rw [checkClause, if_neg (by simpa using hoption)]
          simp
        rw [List.getLast?_append_of_ne_nil _ hsome]
        exact fun c hc => isBlank_of_isWordCharacter (hclause.getLast? c hc)
      exact not_isCheckClause_append hcheck hne hlast
        (isCheckClause_of_ending? (List.append_ne_nil_of_left_ne_nil hne _) hend hother)

end SchemaMigration.View
