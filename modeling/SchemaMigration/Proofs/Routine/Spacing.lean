import SchemaMigration.Proofs.Table.Enclosed
import SchemaMigration.Proofs.Text.Spacing
import SchemaMigration.Routine.Parser

/-!
# The spacing of a routine

How many blanks stand together in the definition of a routine does not matter for anything that
routines are compared by. Reading a definition with single spaces gives the same routine, except
that its parameters, its body and its source have single spaces.

## Main Definitions

* `parenthesised?_singleSpaced` - what stands between parentheses
* `Routine.ignoresSpacing_resultType?`, `Routine.ignoresSpacing_comment?` - the characteristics
* `Routine.characteristicsAndBody_singleSpaced` - all characteristics and the body
* `Routine.ofHead?` - the routine behind a head, and `Routine.ofHead?_singleSpaced`
-/

namespace SchemaMigration

open Text

/-! ## Parentheses -/

section

variable {literal : Literal} {depth : Nat} {c : Char}

/-- Any character but the closing parenthesis is part of what stands between the two. -/
theorem parenthesisedFrom?_step (h : ¬ (c = ')' ∧ depth = 0 ∧ literal = .outside)) (text : Text) :
    parenthesisedFrom? literal depth (c :: text) =
      (parenthesisedFrom? (literal.next c) (depthAfter c depth literal) text).map
        fun (inner, rest) => (c :: inner, rest) :=
  @parenthesisedFrom?_cons (literal, depth) c h text

theorem parenthesisedFrom?_blank (hc : isBlank c = true) (h : literal.IsRegular) (text : Text) :
    parenthesisedFrom? literal depth (c :: text) =
      (parenthesisedFrom? literal.resumed depth text).map
        fun (inner, rest) => (c :: inner, rest) := by
  obtain ⟨hunquoted, hopen, hclose⟩ := isPlain_of_isBlank hc
  have hdepth : depthAfter c depth literal = depth := by
    cases literal <;> simp [depthAfter, hopen, hclose]
  rw [parenthesisedFrom?_step (fun h => hclose h.1), Literal.next_of_isUnquoted hunquoted h, hdepth]

/-- What stands between parentheses is found in a text with single spaces too. -/
theorem parenthesisedFrom?_singleSpaced (h : literal.IsRegular) (text : Text) :
    parenthesisedFrom? literal depth (singleSpaced text) =
      (parenthesisedFrom? literal depth text).map
        fun (inner, rest) => (singleSpaced inner, singleSpaced rest) := by
  induction text generalizing literal depth with
  | nil => rfl
  | cons c text ih =>
      cases hc : isBlank c with
      | false =>
          rw [singleSpaced_cons_of_neg hc]
          by_cases hclose : c = ')' ∧ depth = 0 ∧ literal = .outside
          · obtain ⟨rfl, rfl, rfl⟩ := hclose
            rfl
          · rw [parenthesisedFrom?_step hclose, parenthesisedFrom?_step hclose, ih (h.next c),
              Option.map_map, Option.map_map]
            refine Option.map_congr fun found _ => ?_
            simp [singleSpaced_cons_of_neg hc]
      | true =>
          rw [parenthesisedFrom?_blank hc h, Option.map_map, singleSpaced_cons_of_pos hc]
          -- what stands between the parentheses begins as the text does
          have hhead {found : Text × Text}
              (hread : parenthesisedFrom? literal.resumed depth text = some found) :
              found.1.head?.any isBlank = text.head?.any isBlank := by
            obtain ⟨rfl, -, -⟩ := (@parenthesisedFrom?_eq_some (literal.resumed, depth) ..).mp hread
            cases found.1 with
            | nil => simp; decide
            | cons d inner => rfl
          split
          · rename_i hblank
            obtain ⟨d, behind, rfl, hd⟩ : ∃ d behind, text = d :: behind ∧ isBlank d = true := by
              cases text with
              | nil => cases hblank
              | cons d behind => exact ⟨d, behind, rfl, hblank⟩
            have hsame : parenthesisedFrom? literal depth (d :: behind) =
                parenthesisedFrom? literal.resumed depth (d :: behind) := by
              rw [parenthesisedFrom?_blank hd h, parenthesisedFrom?_blank hd h.resumed,
                Literal.resumed_resumed]
            rw [ih h, hsame]
            refine Option.map_congr fun found hfound => ?_
            have hinner := (hhead hfound).trans hblank
            simp [singleSpaced_cons_of_pos hc, hinner]
          · rename_i hblank
            rw [parenthesisedFrom?_blank (by decide) h, ih h.resumed, Option.map_map]
            refine Option.map_congr fun found hfound => ?_
            have hinner := (hhead hfound).trans (Bool.not_eq_true _ ▸ hblank)
            simp [singleSpaced_cons_of_pos hc, hinner]

end

theorem parenthesised?_singleSpaced (text : Text) : parenthesised? (singleSpaced text) =
    (parenthesised? text).map fun (inner, rest) => (singleSpaced inner, singleSpaced rest) := by
  cases text with
  | nil => rfl
  | cons c text =>
      by_cases hopen : c = '('
      · rw [hopen, singleSpaced_cons_of_neg (by decide), parenthesised?, parenthesised?,
          parenthesisedFrom?_singleSpaced Literal.isRegular_outside, Option.map_map, Option.map_map]
        refine Option.map_congr fun found _ => ?_
        simp [trim_singleSpaced]
      · have hnone {d : Char} (hd : d ≠ '(') (rest : Text) : parenthesised? (d :: rest) = none := by
          unfold parenthesised?
          split
          · rename_i heq
            exact absurd (List.cons.inj heq).1 hd
          · rfl
        rw [hnone hopen]
        cases hc : isBlank c with
        | false => rw [singleSpaced_cons_of_neg hc, hnone hopen, Option.map_none]
        | true =>
            obtain ⟨rest, hrest⟩ := exists_singleSpaced_cons hc text
            rw [hrest, hnone (by decide), Option.map_none]

theorem opening?_singleSpaced (text : Text) :
    opening? (singleSpaced text) = (opening? text).map singleSpaced := by
  rw [opening?, opening?, trimLeft_singleSpaced]
  cases htrim : trimLeft text with
  | nil => rfl
  | cons c rest =>
      have hc : isBlank c = false := isBlank_of_trimLeft_eq_cons htrim
      rw [singleSpaced_cons_of_neg hc]
      by_cases hopen : c = '('
      · rw [hopen]
        simp [singleSpaced_cons_of_neg (show isBlank '(' = false by decide)]
      · split
        · rename_i heq
          exact absurd (List.cons.inj heq).1 hopen
        · split
          · rename_i heq
            exact absurd (List.cons.inj heq).1 hopen
          · rfl

/-- The name, the parameters and what follows them. -/
theorem Routine.parameters?_singleSpaced (text : Text) :
    Routine.parameters? (singleSpaced text) = (Routine.parameters? text).map
      fun (name, parameters, rest) => (name, singleSpaced parameters, singleSpaced rest) := by
  simp only [Routine.parameters?, Option.bind_eq_bind, name?_singleSpaced]
  cases name? text with
  | none => rfl
  | some found =>
      obtain ⟨name, behind⟩ := found
      simp only [Option.map_some, Option.bind_some, opening?_singleSpaced]
      cases opening? behind with
      | none => rfl
      | some start =>
          simp only [Option.map_some, Option.bind_some, parenthesised?_singleSpaced]
          cases parenthesised? start <;> rfl

namespace Routine

/-! ## Comments -/

/-- A backslash is the last character or escapes another one. -/
theorem ne_backslash {c : Char} {text : Text} (hlast : c = '\\' → text = [] → False)
    (hmore : ∀ d rest, c = '\\' → text = d :: rest → False) : c ≠ '\\' := by
  intro hc
  cases text with
  | nil => exact hlast hc rfl
  | cons d rest => exact hmore d rest hc rfl

/-- A character that is neither a quote nor a backslash is passed over. -/
theorem literalEnd?_other {c : Char} (hquote : c ≠ '\x27') (hslash : c ≠ '\\') (text : Text) :
    literalEnd? (c :: text) = literalEnd? text := by
  rw [literalEnd?]
  · exact fun _ heq _ => hquote heq
  · exact hquote
  · exact fun heq _ => hslash heq
  · exact fun _ _ heq _ => hslash heq

theorem literalEnd?_blank {c : Char} (hc : isBlank c = true) (text : Text) :
    literalEnd? (c :: text) = literalEnd? text := by
  refine literalEnd?_other ?_ ?_ text
  · rintro rfl
    exact absurd hc (by decide)
  · rintro rfl
    exact absurd hc (by decide)

/-- So is a run of blanks, whatever its length. -/
theorem literalEnd?_singleSpaced_blank {c : Char} (hc : isBlank c = true) (text : Text) :
    literalEnd? (singleSpaced (c :: text)) = literalEnd? (singleSpaced text) := by
  rw [singleSpaced_cons_of_pos hc]
  split
  · rfl
  · exact literalEnd?_blank (by decide) _

/-- A literal ends where it ends with single spaces. -/
theorem literalEnd?_singleSpaced (text : Text) :
    literalEnd? (singleSpaced text) = (literalEnd? text).map singleSpaced := by
  have hquote (text : Text) : singleSpaced ('\x27' :: text) = '\x27' :: singleSpaced text :=
    singleSpaced_cons_of_neg (by decide) text
  have hslash (text : Text) : singleSpaced ('\\' :: text) = '\\' :: singleSpaced text :=
    singleSpaced_cons_of_neg (by decide) text
  induction text using literalEnd?.induct with
  | case1 => rfl
  | case2 text ih =>
      rw [hquote, hquote, literalEnd?, literalEnd?, ih]
      cases literalEnd? text with
      | none => exact congrArg some (hquote text).symm
      | some rest => rfl
  | case3 text hne =>
      have hsingle : ∀ rest, singleSpaced text = '\x27' :: rest → False := by
        intro rest hrest
        have hhead := head?_singleSpaced text
        cases text with
        | nil => cases hrest
        | cons c text =>
            rw [hrest, List.head?_cons, List.head?_cons, Option.map_some] at hhead
            have hc : '\x27' = if isBlank c then ' ' else c := Option.some.inj hhead
            split at hc
            · exact absurd hc (by decide)
            · exact hne text (by rw [hc])
      rw [hquote, literalEnd?.eq_3 _ hsingle, literalEnd?.eq_3 _ hne, Option.map_some]
  | case4 => rfl
  | case5 c text ih =>
      rw [hslash, literalEnd?]
      cases hc : isBlank c with
      | false => rw [singleSpaced_cons_of_neg hc, literalEnd?, ih]
      | true =>
          -- the backslash is in front of the first of the blanks, or of the space for all of them
          obtain ⟨rest, hrest⟩ := exists_singleSpaced_cons hc text
          have hsame := literalEnd?_singleSpaced_blank hc text
          rw [hrest, literalEnd?_blank (by decide)] at hsame
          rw [hrest, literalEnd?, hsame, ih]
  | case6 c text _ hne hlast hmore ih =>
      have hbackslash := ne_backslash hlast hmore
      rw [literalEnd?_other hne hbackslash]
      cases hc : isBlank c with
      | false => rw [singleSpaced_cons_of_neg hc, literalEnd?_other hne hbackslash, ih]
      | true => rw [literalEnd?_singleSpaced_blank hc, ih]

/-- A literal ends with a quote. -/
theorem exists_of_literalEnd? {text rest : Text} (h : literalEnd? text = some rest) :
    ∃ front, text = front ++ '\x27' :: rest := by
  induction text using literalEnd?.induct with
  | case1 => cases h
  | case2 text ih =>
      rw [literalEnd?] at h
      rcases eq_some_of_orElse h with h | h
      · obtain ⟨front, rfl⟩ := ih h
        exact ⟨'\x27' :: '\x27' :: front, rfl⟩
      · exact ⟨[], by rw [← Option.some.inj h]; rfl⟩
  | case3 text hne =>
      rw [literalEnd?.eq_3 _ hne] at h
      exact ⟨[], by rw [Option.some.inj h]; rfl⟩
  | case4 => cases h
  | case5 c text ih =>
      rw [literalEnd?] at h
      obtain ⟨front, rfl⟩ := ih h
      exact ⟨'\\' :: c :: front, rfl⟩
  | case6 c text hpair hne hlast hmore ih =>
      rw [literalEnd?.eq_6 _ _ hpair hne hlast hmore] at h
      obtain ⟨front, rfl⟩ := ih h
      exact ⟨c :: front, rfl⟩

theorem ignoresSpacing_literalEnd? : IgnoresSpacing literalEnd? where
  singleSpaced := literalEnd?_singleSpaced
  parts h := by
    obtain ⟨front, rfl⟩ := exists_of_literalEnd? h
    refine ⟨front ++ ['\x27'], by simp, by simp, .inl fun c hc => ?_⟩
    rw [List.getLast?_concat] at hc
    cases hc
    decide

theorem comment?_eq : comment? = fun text => (((keyword? "COMMENT" text).bind blanks?).bind
    (after? "'")).bind literalEnd? := by
  funext text
  simp only [comment?, Option.bind_eq_bind, Option.bind_assoc]

theorem ignoresSpacing_comment? : IgnoresSpacing comment? := by
  rw [comment?_eq]
  exact (((ignoresSpacing_keyword? (by decide)).bind ignoresSpacing_blanks?).bind
    (ignoresSpacing_after? (by decide))).bind ignoresSpacing_literalEnd?

/-! ## Characteristics -/

theorem ignoresSpacing_characterSet? : IgnoresSpacing characterSet? := by
  have hread : characterSet? = fun text => (((blanks? text).bind fun clause =>
      keyword? "CHARSET" clause <|> keywords? ["CHARACTER", "SET"] clause).bind blanks?).bind
        fun text => (word? text).map (·.2) := by
    funext text
    simp only [characterSet?, Option.bind_eq_bind, Option.pure_def, Option.bind_assoc,
      Option.map_eq_bind, Function.comp_def]
  rw [hread]
  exact ((ignoresSpacing_blanks?.bind ((ignoresSpacing_keyword? (by decide)).orElse
    (ignoresSpacing_keywords? (by decide)))).bind ignoresSpacing_blanks?).bind ignoresSpacing_word?

theorem ignoresSpacing_collation? : IgnoresSpacing collation? := by
  have hread : collation? = fun text => ((afterKeyword? "COLLATE" text).bind blanks?).bind
      fun text => (word? text).map (·.2) := by
    funext text
    simp only [collation?, Option.bind_eq_bind, Option.pure_def, Option.bind_assoc,
      Option.map_eq_bind, Function.comp_def]
  rw [hread]
  exact ((ignoresSpacing_afterKeyword? (by decide)).bind ignoresSpacing_blanks?).bind
    ignoresSpacing_word?

theorem ignoresSpacing_resultType? : IgnoresSpacing resultType? := by
  have hread : resultType? = fun text => (((((((keyword? "RETURNS" text).bind blanks?).bind
      fun text => (word? text).map (·.2)).map
        fun rest => ((upToClosing? (trimLeft rest)).map (·.2)).getD rest).map
          fun rest => (afterKeyword? "UNSIGNED" rest).getD rest).map
            fun rest => (characterSet? rest).getD rest).map
              fun rest => (collation? rest).getD rest) := by
    funext text
    simp only [resultType?, Option.bind_eq_bind, Option.pure_def, Option.bind_assoc,
      Option.map_eq_bind, Option.bind_some, Function.comp_def]
  rw [hread]
  exact ((((((ignoresSpacing_keyword? (by decide)).bind ignoresSpacing_blanks?).bind
    ignoresSpacing_word?).optional ignoresSpacing_closing).optional
      (ignoresSpacing_afterKeyword? (by decide))).optional ignoresSpacing_characterSet?).optional
        ignoresSpacing_collation?

theorem exists_of_mem_fixedCharacteristics {keywords : List Text}
    (h : keywords ∈ fixedCharacteristics) : ∃ keyword more, keywords = keyword :: more ∧
      ∀ other ∈ keyword :: more, IsKeyword other := by
  have hfixed : ∀ keywords ∈ fixedCharacteristics, keywords ≠ [] ∧
      ∀ keyword ∈ keywords, IsKeyword keyword := by decide
  obtain ⟨hne, hkeywords⟩ := hfixed keywords h
  obtain ⟨keyword, more, rfl⟩ := List.exists_cons_of_ne_nil hne
  exact ⟨keyword, more, rfl, hkeywords⟩

/-- What a characteristic has in front of the blanks and the body behind it. -/
theorem ignoresSpacing_item? : IgnoresSpacing fun item =>
    resultType? item <|> comment? item <|> fixedCharacteristics.findSome? (keywords? · item) := by
  refine ignoresSpacing_resultType?.orElse (ignoresSpacing_comment?.orElse (.findSome? ?_))
  intro keywords hmem
  obtain ⟨keyword, more, rfl, hkeywords⟩ := exists_of_mem_fixedCharacteristics hmem
  exact ignoresSpacing_keywords? hkeywords

theorem characteristic?_eq (text : Text) : characteristic? text =
    (resultType? (trimLeft text) <|> comment? (trimLeft text) <|>
      fixedCharacteristics.findSome? (keywords? · (trimLeft text))).map
        fun rest => (squash (before (trimLeft text) rest), rest) := by
  rw [characteristic?, Option.map_eq_bind]
  rfl

/-- A characteristic is the same with single spaces. -/
theorem characteristic?_singleSpaced (text : Text) : characteristic? (singleSpaced text) =
    (characteristic? text).map fun (item, rest) => (item, singleSpaced rest) := by
  have hitem := ignoresSpacing_item?.singleSpaced (trimLeft text)
  rw [characteristic?_eq, characteristic?_eq, trimLeft_singleSpaced, hitem, Option.map_map,
    Option.map_map]
  refine Option.map_congr fun rest hrest => ?_
  simp [ignoresSpacing_item?.before hrest]

theorem length_lt_of_characteristic? {text item rest : Text}
    (h : characteristic? text = some (item, rest)) : rest.length < text.length := by
  rw [characteristic?_eq, Option.map_eq_some_iff] at h
  obtain ⟨behind, hbehind, heq⟩ := h
  obtain ⟨-, rfl⟩ := Prod.mk.inj heq
  obtain ⟨front, hne, htext, -⟩ := ignoresSpacing_item?.parts hbehind
  have hlength := (List.dropWhile_suffix isBlank (l := text)).length_le
  have hpositive := List.length_pos_of_ne_nil hne
  rw [← trimLeft, htext, List.length_append] at hlength
  omega

/-- There are no more characteristics than characters. -/
theorem characteristicsUpTo_eq {count other : Nat} {text : Text} (hcount : text.length ≤ count)
    (hother : text.length ≤ other) :
    characteristicsUpTo count text = characteristicsUpTo other text := by
  induction count generalizing other text with
  | zero =>
      obtain rfl : text = [] := List.length_eq_zero_iff.mp (by omega)
      cases other <;> rfl
  | succ count ih =>
      cases other with
      | zero =>
          obtain rfl : text = [] := List.length_eq_zero_iff.mp (by omega)
          rfl
      | succ other =>
          rw [characteristicsUpTo, characteristicsUpTo]
          cases hfound : characteristic? text with
          | none => rfl
          | some found =>
              obtain ⟨item, rest⟩ := found
              have hshorter := length_lt_of_characteristic? hfound
              have hsame : characteristicsUpTo count rest = characteristicsUpTo other rest :=
                ih (by omega) (by omega)
              simp only [hsame]

theorem characteristicsUpTo_singleSpaced (count : Nat) (text : Text) :
    characteristicsUpTo count (singleSpaced text) =
      ((characteristicsUpTo count text).1, singleSpaced (characteristicsUpTo count text).2) := by
  induction count generalizing text with
  | zero => rfl
  | succ count ih =>
      rw [characteristicsUpTo, characteristicsUpTo, characteristic?_singleSpaced]
      cases characteristic? text with
      | none => rfl
      | some found =>
          simp only [Option.map_some]
          rw [ih]

/-- All characteristics are the same with single spaces, and the body has single spaces. -/
theorem characteristicsAndBody_singleSpaced (text : Text) :
    characteristicsAndBody (singleSpaced text) =
      ((characteristicsAndBody text).1, singleSpaced (characteristicsAndBody text).2) := by
  simp only [characteristicsAndBody]
  rw [characteristicsUpTo_eq le_rfl (length_singleSpaced_le text), characteristicsUpTo_singleSpaced,
    trim_singleSpaced]

/-! ## Triggers -/

/-- A word that spells a keyword has no blanks. -/
theorem before_singleSpaced_of_anyKeyword? {keywords : List Text}
    (h : ∀ keyword ∈ keywords, IsKeyword keyword) {text rest : Text}
    (hread : anyKeyword? keywords text = some rest) :
    before (Text.singleSpaced text) (Text.singleSpaced rest) = before text rest := by
  obtain ⟨keyword, hkeyword, hfound⟩ := List.exists_of_findSome?_eq_some hread
  obtain ⟨word, hword, rfl⟩ := keyword?_eq_some.mp hfound
  rw [(ignoresSpacing_keyword? (h keyword hkeyword)).before hfound, before_append,
    singleSpaced_eq_self (hword.isBlank (h keyword hkeyword))]

/-- The order of a trigger and what follows it. -/
theorem triggerOrder?_singleSpaced (text : Text) : triggerOrder? (Text.singleSpaced text) =
    (triggerOrder? text).map fun (order, rest) => (order, Text.singleSpaced rest) := by
  have hitem : IgnoresSpacing fun clause => ((anyKeyword? ["FOLLOWS", "PRECEDES"] clause).bind
      blanks?).bind fun text => (word? text).map (·.2) :=
    ((ignoresSpacing_anyKeyword? (by decide)).bind ignoresSpacing_blanks?).bind ignoresSpacing_word?
  have hread (text : Text) : triggerOrder? text = (blanks? text).bind fun clause =>
      (((anyKeyword? ["FOLLOWS", "PRECEDES"] clause).bind blanks?).bind
        fun text => (word? text).map (·.2)).bind fun rest =>
          (blanks? rest).map fun body => (squash (before clause rest), body) := by
    simp only [triggerOrder?, Option.bind_eq_bind, Option.pure_def, Option.bind_assoc,
      Option.map_eq_bind, Option.bind_some, Function.comp_def]
  rw [hread, hread]
  refine ignoresSpacing_blanks?.bind_map fun clause _ => hitem.bind_map fun rest hrest => ?_
  rw [ignoresSpacing_blanks?.singleSpaced, hitem.before hrest, squash_singleSpaced, Option.map_map,
    Option.map_map]
  rfl

/-! ## Whole routines -/

/-- A routine whose texts have single spaces. -/
def singleSpaced (routine : Routine) : Routine :=
  { routine with
    parameters := Text.singleSpaced routine.parameters
    body := Text.singleSpaced routine.body
    source := Text.singleSpaced routine.source }

/-- A head in front of a text with single spaces. -/
def Head.singleSpaced (head : Head) : Head := { head with rest := Text.singleSpaced head.rest }

/-- A trigger is the same, but for its texts, in a text with single spaces. -/
theorem trigger?_singleSpaced (head : Head) :
    trigger? head.singleSpaced = (trigger? head).map singleSpaced := by
  have htiming : ∀ keyword ∈ ["BEFORE".toList, "AFTER".toList], IsKeyword keyword := by decide
  have hevent : ∀ keyword ∈ ["INSERT".toList, "UPDATE".toList, "DELETE".toList],
      IsKeyword keyword := by decide
  have hrow : ∀ keyword ∈ ["FOR".toList, "EACH".toList, "ROW".toList], IsKeyword keyword := by
    decide
  simp only [trigger?, Option.bind_eq_bind, Head.singleSpaced, word?_singleSpaced]
  cases word? head.rest with
  | none => rfl
  | some found =>
      obtain ⟨name, rest⟩ := found
      refine ignoresSpacing_blanks?.bind_map fun timing _ => ?_
      refine (ignoresSpacing_anyKeyword? htiming).bind_map fun rest hrest => ?_
      simp only [before_singleSpaced_of_anyKeyword? htiming hrest]
      refine ignoresSpacing_blanks?.bind_map fun event _ => ?_
      refine (ignoresSpacing_anyKeyword? hevent).bind_map fun rest hrest => ?_
      simp only [before_singleSpaced_of_anyKeyword? hevent hrest]
      refine (ignoresSpacing_afterKeyword? (by decide)).bind_map fun rest _ => ?_
      refine ignoresSpacing_blanks?.bind_map fun rest _ => ?_
      simp only [word?_singleSpaced]
      cases word? rest with
      | none => rfl
      | some found =>
          obtain ⟨table, rest⟩ := found
          refine ignoresSpacing_blanks?.bind_map fun rest _ => ?_
          refine (ignoresSpacing_keywords? hrow).bind_map fun rest _ => ?_
          rw [triggerOrder?_singleSpaced, ignoresSpacing_blanks?.singleSpaced]
          cases triggerOrder? rest with
          | none => cases blanks? rest <;> simp [singleSpaced, trim_singleSpaced]
          | some found => simp [singleSpaced, trim_singleSpaced]

/-- The routine behind a head, if there is one. -/
def ofHead? (head : Head) : Option Routine :=
  if head.kind = .trigger then trigger? head
  else
    (parameters? head.rest).bind fun (name, parameters, rest) =>
      let (characteristics, body) := characteristicsAndBody rest
      if body.isEmpty then none
      else some {
        name
        kind := head.kind
        parameters := trim parameters
        characteristics
        body
        definer := head.definer
        source := head.rest }

/-- A routine is read from a text just if the text has a head and the routine stands behind it. -/
theorem parse_eq_ok {text : Text} {routine : Routine} : parse text = .ok routine ↔
    ∃ head, head? text = some head ∧ ofHead? head = some routine := by
  rw [parse]
  cases head? text with
  | none => simp
  | some head =>
      simp only [Option.some.injEq, exists_eq_left', ofHead?]
      split
      · cases trigger? head <;> simp
      · cases parameters? head.rest with
        | none => simp
        | some found =>
            simp only [Option.bind_some]
            split <;> simp

/-- A routine is the same, but for its texts, in a text with single spaces. -/
theorem ofHead?_singleSpaced (head : Head) :
    ofHead? head.singleSpaced = (ofHead? head).map singleSpaced := by
  have hparameters := parameters?_singleSpaced head.rest
  simp only [ofHead?, trigger?_singleSpaced]
  rw [Head.singleSpaced, hparameters]
  split
  · rfl
  · cases parameters? head.rest with
    | none => rfl
    | some found =>
        simp only [Option.map_some, Option.bind_some, characteristicsAndBody_singleSpaced]
        split
        · rename_i hempty
          rw [if_pos (by simpa using hempty)]
          rfl
        · rename_i hempty
          rw [if_neg (by simpa using hempty)]
          simp [singleSpaced, trim_singleSpaced]

/-- A routine with single spaces is compared as before. -/
@[simp] theorem signature_singleSpaced (routine : Routine) :
    routine.singleSpaced.signature = routine.signature := by
  simp [signature, singleSpaced, options]

end Routine

end SchemaMigration
