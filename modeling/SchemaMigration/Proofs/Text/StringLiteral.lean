import SchemaMigration.Proofs.Dump.QuotedText
import SchemaMigration.Proofs.Table.ListItems
import SchemaMigration.Proofs.Text.Layout
import SchemaMigration.Text.LetterCase

/-!
# String literals

Where texts are compared without their layout, literals are no exception: each comes out with single
spaces in it, and where letter case does not matter either, in upper case. No literal gets lost, as
no quote is a blank or the upper case of anything else. So texts that differ in one literal compare
equal just if the literals do.

## Main Definitions

* `literals` - the string literals of a text in order, with their quotes
* `literals_squash`, `literals_upper` - the literals of a text without layout, and in upper case
* `squash_eq_squash_iff`, `upper_squash_eq_iff` - texts that differ in one literal
-/

namespace SchemaMigration

open Text

/-- The rest of the literal that a scanner stands in, and the literals behind it. A literal that is
not closed is none, and a doubled quote ends a literal and begins the next. -/
def literalsFrom : Literal → Text → List Text
  | _, [] => []
  | literal, c :: text =>
    if literal.next c = .outside then
      (if literal = .outside then [] else [[c]]) ++ literalsFrom .outside text
    else (literalsFrom (literal.next c) text).modifyHead (c :: ·)

/-- The string literals of a text, with their quotes. -/
def literals (text : Text) : List Text := literalsFrom .outside text

/-! ## Literals -/

theorem Literal.isRegular_outside : Literal.outside.IsRegular := trivial

/-- Where a scanner stands behind a character that it does not mind. -/
def Literal.resumed : Literal → Literal
  | escaped quote => inside quote
  | literal => literal

theorem Literal.next_of_isUnquoted {c : Char} (hc : IsUnquoted c) {literal : Literal}
    (h : literal.IsRegular) : literal.next c = literal.resumed := by
  simp only [IsUnquoted, List.mem_cons, List.not_mem_nil, or_false, not_or] at hc
  cases literal with
  | outside => simp [next, resumed, hc]
  | inside quote => rcases h with rfl | rfl <;> simp [next, resumed, hc]
  | escaped quote => rfl

theorem Literal.IsRegular.resumed {literal : Literal} (h : literal.IsRegular) :
    literal.resumed.IsRegular := by
  cases literal <;> exact h

theorem Literal.resumed_eq_outside {literal : Literal} :
    literal.resumed = .outside ↔ literal = .outside := by
  cases literal <;> simp [Literal.resumed]

@[simp] theorem Literal.resumed_resumed (literal : Literal) :
    literal.resumed.resumed = literal.resumed := by
  cases literal <;> rfl

/-- A character that a scanner does not mind belongs to the literal that it stands in. -/
theorem literalsFrom_cons_of_isUnquoted {c : Char} (hc : IsUnquoted c) {literal : Literal}
    (h : literal.IsRegular) (text : Text) : literalsFrom literal (c :: text) =
      if literal = .outside then literalsFrom .outside text
      else (literalsFrom literal.resumed text).modifyHead (c :: ·) := by
  rw [literalsFrom, Literal.next_of_isUnquoted hc h]
  by_cases houtside : literal = .outside
  · simp [houtside, Literal.resumed]
  · rw [if_neg (mt Literal.resumed_eq_outside.mp houtside), if_neg houtside]

/-- Such a character leaves no mark on how the scanner goes on. -/
theorem literalsFrom_resumed_cons {c : Char} (hc : IsUnquoted c) {literal : Literal}
    (h : literal.IsRegular) (text : Text) :
    literalsFrom literal.resumed (c :: text) = literalsFrom literal (c :: text) := by
  rw [literalsFrom_cons_of_isUnquoted hc h.resumed, literalsFrom_cons_of_isUnquoted hc h,
    Literal.resumed_resumed]
  simp only [Literal.resumed_eq_outside]

/-- What is left of a literal begins where the text begins. -/
theorem head?_of_literalsFrom {literal : Literal} (h : literal ≠ .outside) {text piece : Text}
    (hpiece : (literalsFrom literal text).head? = some piece) : piece.head? = text.head? := by
  cases text with
  | nil => cases hpiece
  | cons c text =>
      rw [literalsFrom, if_neg h] at hpiece
      split at hpiece
      · simp only [List.singleton_append, List.head?_cons, Option.some.injEq] at hpiece
        simp [← hpiece]
      · rw [List.head?_modifyHead, Option.map_eq_some_iff] at hpiece
        obtain ⟨behind, -, rfl⟩ := hpiece
        rfl

theorem map_modifyHead {α β : Type} {f : α → α} {g : α → β} {k : β → β} {items : List α}
    (h : ∀ a, items.head? = some a → g (f a) = k (g a)) :
    (items.modifyHead f).map g = (items.map g).modifyHead k := by
  cases items with
  | nil => rfl
  | cons a items => simp [h a rfl]

/-- The literals of a text with single spaces are those of the text, with single spaces. -/
theorem literalsFrom_singleSpaced {literal : Literal} (h : literal.IsRegular) (text : Text) :
    literalsFrom literal (singleSpaced text) = (literalsFrom literal text).map singleSpaced := by
  induction text generalizing literal with
  | nil => rfl
  | cons c text ih =>
      cases hc : isBlank c with
      | false =>
          rw [singleSpaced_cons_of_neg hc, literalsFrom, literalsFrom]
          split
          · have hquote : singleSpaced [c] = [c] := singleSpaced_cons_of_neg hc []
            rw [ih Literal.isRegular_outside, List.map_append]
            split <;> simp [hquote]
          · rw [ih (h.next c)]
            exact (map_modifyHead fun piece _ => singleSpaced_cons_of_neg hc piece).symm
      | true =>
          have hunquoted : IsUnquoted c := (isPlain_of_isBlank hc).1
          rw [literalsFrom_cons_of_isUnquoted hunquoted h, singleSpaced_cons_of_pos hc]
          by_cases houtside : literal = .outside
          · subst houtside
            rw [if_pos rfl, ← ih h]
            split
            · rfl
            · rw [literalsFrom_cons_of_isUnquoted (by decide) h, if_pos rfl]
          · have hne : literal.resumed ≠ .outside := mt Literal.resumed_eq_outside.mp houtside
            have hstarts (piece : Text)
                (hpiece : (literalsFrom literal.resumed text).head? = some piece) :
                piece.head? = text.head? := head?_of_literalsFrom hne hpiece
            rw [if_neg houtside]
            split
            · rename_i hhead
              -- the blank goes, and the next one stands for both
              obtain ⟨d, behind, rfl, hd⟩ : ∃ d behind, text = d :: behind ∧ isBlank d = true := by
                cases text with
                | nil => cases hhead
                | cons d behind => exact ⟨d, behind, rfl, hhead⟩
              rw [ih h, ← literalsFrom_resumed_cons (isPlain_of_isBlank hd).1 h,
                map_modifyHead (k := id)]
              · simp
              · intro piece hpiece
                rw [singleSpaced_cons_of_pos hc, hstarts piece hpiece, if_pos hhead, id]
            · rename_i hhead
              rw [literalsFrom_cons_of_isUnquoted (by decide) h, if_neg houtside, ih h.resumed]
              refine (map_modifyHead fun piece hpiece => ?_).symm
              rw [singleSpaced_cons_of_pos hc, hstarts piece hpiece, if_neg hhead]

/-- Blanks are no literals. -/
theorem literalsFrom_blank {literal : Literal} (h : literal.IsRegular) {pad : Text}
    (hpad : ∀ c ∈ pad, isBlank c = true) : literalsFrom literal pad = [] := by
  induction pad generalizing literal with
  | nil => rfl
  | cons c pad ih =>
      have hpad' : ∀ d ∈ pad, isBlank d = true := fun d hd => hpad d (List.mem_cons_of_mem _ hd)
      rw [literalsFrom_cons_of_isUnquoted (isPlain_of_isBlank (hpad c (by simp))).1 h,
        ih h.resumed hpad', ih Literal.isRegular_outside hpad']
      simp

/-- Blanks at the end of a text belong to no literal. -/
theorem literalsFrom_append_blank {literal : Literal} (h : literal.IsRegular) (text : Text)
    {pad : Text} (hpad : ∀ c ∈ pad, isBlank c = true) :
    literalsFrom literal (text ++ pad) = literalsFrom literal text := by
  induction text generalizing literal with
  | nil => rw [List.nil_append, literalsFrom_blank h hpad, literalsFrom]
  | cons c text ih =>
      have houtside : literalsFrom .outside (text ++ pad) = literalsFrom .outside text :=
        ih Literal.isRegular_outside
      rw [List.cons_append, literalsFrom, literalsFrom, ih (h.next c), houtside]

/-- Neither do blanks in front. -/
theorem literals_blank_append {pad : Text} (hpad : ∀ c ∈ pad, isBlank c = true) (text : Text) :
    literals (pad ++ text) = literals text := by
  induction pad with
  | nil => rfl
  | cons c pad ih =>
      rw [List.cons_append, literals, literalsFrom_cons_of_isUnquoted
        (isPlain_of_isBlank (hpad c (by simp))).1 Literal.isRegular_outside, if_pos rfl]
      exact ih fun d hd => hpad d (List.mem_cons_of_mem _ hd)

/-- The literals of a text without its layout. -/
theorem literals_squash (text : Text) :
    literals (squash text) = (literals text).map singleSpaced := by
  obtain ⟨front, back, heq, hfront, hback⟩ := exists_trim text
  have htrim : literals (trim text) = literals text := by
    conv_rhs => rw [heq, literals]
    rw [literalsFrom_append_blank Literal.isRegular_outside _ hback, ← literals,
      literals_blank_append hfront]
  rw [squash_eq, ← htrim]
  exact literalsFrom_singleSpaced Literal.isRegular_outside _

/-! ## Upper case -/

/-- Whether a run maps no letter to a code point. -/
def Text.CaseRun.avoids (run : CaseRun) (code : Nat) : Bool :=
  (code : Int) - run.shift < run.first || run.last < (code : Int) - run.shift

theorem Text.CaseRun.toNat_image_ne {run : CaseRun} {n code : Nat} (hhas : run.has n = true)
    (havoids : run.avoids code = true) (hcode : code ≠ 0) : (run.image n).toNat ≠ code := by
  intro himage
  -- a code point that is no character would become the null character
  have hvalid : (n + run.shift).toNat.isValidChar := by
    by_contra hinvalid
    rw [CaseRun.image, Char.ofNat, dif_neg hinvalid] at himage
    exact hcode himage.symm
  have hvalue : (Char.ofNat (n + run.shift).toNat).toNat = (n + run.shift).toNat := by
    rw [Char.ofNat, dif_pos hvalid]
    rfl
  rw [CaseRun.image, hvalue] at himage
  simp only [CaseRun.has, Bool.and_eq_true, decide_eq_true_eq] at hhas
  simp only [CaseRun.avoids, Bool.or_eq_true, decide_eq_true_eq] at havoids
  omega

theorem isUnquoted_of_toNat {c : Char} (h : ∀ code ∈ [0x27, 0x22, 0x5C], c.toNat ≠ code) :
    IsUnquoted c := by
  simp only [IsUnquoted, List.mem_cons, List.not_mem_nil, or_false, not_or]
  refine ⟨?_, ?_, ?_⟩ <;> rintro rfl
  · exact h 0x27 (by simp) rfl
  · exact h 0x22 (by simp) rfl
  · exact h 0x5C (by simp) rfl

/-- Quotes and backslashes are the upper case of themselves alone. -/
theorem upperCharacter_cases (c : Char) : upperCharacter c = [c] ∨
    IsUnquoted c ∧ upperCharacter c ≠ [] ∧ ∀ d ∈ upperCharacter c, IsUnquoted d := by
  rw [upperCharacter]
  split
  · rename_i hsmall
    have htable : (List.range 0x80).all fun code => (Char.ofNat code).toUpper = Char.ofNat code ∨
        IsUnquoted (Char.ofNat code) ∧ IsUnquoted (Char.ofNat code).toUpper := by decide +kernel
    have hcode := List.all_eq_true.mp htable c.toNat (List.mem_range.mpr hsmall)
    rw [Char.ofNat_toNat, decide_eq_true_iff] at hcode
    rcases hcode with hsame | ⟨hc, hupper⟩
    · exact .inl (by rw [hsame])
    · exact .inr ⟨hc, by simp, by simpa using hupper⟩
  · rename_i hlarge
    have hc : IsUnquoted c := isUnquoted_of_toNat fun code hcode hsame => by
      simp only [List.mem_cons, List.not_mem_nil, or_false] at hcode
      omega
    split
    · rename_i codes hcodes
      have htable : upperSequences.all fun entry =>
          ! entry.2.isEmpty && entry.2.all fun code => IsUnquoted (Char.ofNat code) := by
        decide +kernel
      obtain ⟨front, back, heq, -⟩ := List.lookup_eq_some_iff.mp hcodes
      have hentry := List.all_eq_true.mp htable (c.toNat, codes) (by simp [heq])
      simp only [Bool.and_eq_true] at hentry
      refine .inr ⟨hc, by simpa using hentry.1, ?_⟩
      simpa using hentry.2
    · split
      · rename_i run hrun
        have htable : upperRuns.all fun run => [0x27, 0x22, 0x5C].all run.avoids := by
          decide +kernel
        have havoids := List.all_eq_true.mp htable run (List.mem_of_find?_eq_some hrun)
        refine .inr ⟨hc, by simp, ?_⟩
        rintro d hd
        obtain rfl := List.mem_singleton.mp hd
        have hhas : run.has c.toNat = true := by simpa using List.find?_some hrun
        refine isUnquoted_of_toNat fun code hcode => ?_
        refine CaseRun.toNat_image_ne hhas (List.all_eq_true.mp havoids code hcode) ?_
        rintro rfl
        simp at hcode
      · exact .inl rfl

/-- Every character has an upper case. -/
theorem upper_ne_nil {text : Text} (h : text ≠ []) : upper text ≠ [] := by
  obtain ⟨c, text, rfl⟩ := List.exists_cons_of_ne_nil h
  rcases upperCharacter_cases c with hself | ⟨-, hne, -⟩
  · simp [upper, hself]
  · simp [upper, hne]

/-- No blank is the upper case of anything else. -/
theorem isBlank_of_mem_upper {text : Text} (h : ∀ c ∈ text, isBlank c = false) :
    ∀ d ∈ upper text, isBlank d = false := by
  intro d hd
  obtain ⟨c, hc, hupper⟩ := List.mem_flatMap.mp hd
  rw [upperCharacter] at hupper
  split at hupper
  · rename_i hsmall
    have htable : (List.range 0x80).all fun code => isBlank (Char.ofNat code) ||
        ! isBlank (Char.ofNat code).toUpper := by decide +kernel
    have hcode := List.all_eq_true.mp htable c.toNat (List.mem_range.mpr hsmall)
    rw [Char.ofNat_toNat, h c hc] at hcode
    obtain rfl := List.mem_singleton.mp hupper
    simpa using hcode
  · split at hupper
    · rename_i codes hcodes
      have htable : upperSequences.all fun entry =>
          entry.2.all fun code => ! isBlank (Char.ofNat code) := by decide +kernel
      obtain ⟨front, back, heq, -⟩ := List.lookup_eq_some_iff.mp hcodes
      have hentry := List.all_eq_true.mp htable (c.toNat, codes) (by simp [heq])
      obtain ⟨code, hcode, rfl⟩ := List.mem_map.mp hupper
      simpa using List.all_eq_true.mp hentry code hcode
    · split at hupper
      · rename_i run hrun
        obtain rfl := List.mem_singleton.mp hupper
        have hhas : run.has c.toNat = true := by simpa using List.find?_some hrun
        rw [Bool.eq_false_iff]
        intro hblank
        have havoids := of_isBlank
          (fun d => d.toNat != 0 && upperRuns.all (·.avoids d.toNat)) (by decide +kernel) hblank
        simp only [Bool.and_eq_true, bne_iff_ne, List.all_eq_true] at havoids
        exact CaseRun.toNat_image_ne hhas (havoids.2 run (List.mem_of_find?_eq_some hrun))
          havoids.1 rfl
      · obtain rfl := List.mem_singleton.mp hupper
        exact h d hc

/-- Characters that a scanner does not mind belong to the literal that it stands in. -/
theorem literalsFrom_append_of_isUnquoted {front : Text} (hne : front ≠ [])
    (hfront : ∀ c ∈ front, IsUnquoted c) {literal : Literal} (h : literal.IsRegular) (rest : Text) :
    literalsFrom literal (front ++ rest) =
      if literal = .outside then literalsFrom .outside rest
      else (literalsFrom literal.resumed rest).modifyHead (front ++ ·) := by
  induction front generalizing literal with
  | nil => exact absurd rfl hne
  | cons c front ih =>
      rw [List.cons_append, literalsFrom_cons_of_isUnquoted (hfront c (by simp)) h]
      cases front with
      | nil => rfl
      | cons d front =>
          have hbehind := fun e he => hfront e (List.mem_cons_of_mem _ he)
          rw [ih (by simp) hbehind h.resumed, ih (by simp) hbehind Literal.isRegular_outside,
            Literal.resumed_resumed, if_pos rfl]
          by_cases houtside : literal = .outside
          · rw [if_pos houtside, if_pos houtside]
          · rw [if_neg houtside, if_neg houtside,
              if_neg (mt Literal.resumed_eq_outside.mp houtside), List.modifyHead_modifyHead]
            rfl

/-- The literals of a text in upper case are those of the text, in upper case. -/
theorem literalsFrom_upper {literal : Literal} (h : literal.IsRegular) (text : Text) :
    literalsFrom literal (upper text) = (literalsFrom literal text).map upper := by
  induction text generalizing literal with
  | nil => rfl
  | cons c text ih =>
      have hupper : upper (c :: text) = upperCharacter c ++ upper text := List.flatMap_cons
      rcases upperCharacter_cases c with hself | ⟨hc, hne, hunquoted⟩
      · have hquote : upper [c] = [c] := by simp [upper, hself]
        rw [hupper, hself, List.singleton_append, literalsFrom, literalsFrom, ih (h.next c),
          ih Literal.isRegular_outside]
        split
        · rw [List.map_append]
          split <;> simp [hquote]
        · refine (map_modifyHead fun piece _ => ?_).symm
          simp [upper, hself]
      · rw [hupper, literalsFrom_append_of_isUnquoted hne hunquoted h,
          literalsFrom_cons_of_isUnquoted hc h, ih h.resumed, ih Literal.isRegular_outside]
        split
        · rfl
        · exact (map_modifyHead fun piece _ => List.flatMap_cons).symm

theorem literals_upper (text : Text) : literals (upper text) = (literals text).map upper :=
  literalsFrom_upper Literal.isRegular_outside text

/-! ## Texts that differ in one literal -/

/-- A literal begins and ends with characters that are no blanks. -/
theorem Dump.IsLiteral.ends_not_blank {literal : Text} (h : Dump.IsLiteral literal) :
    literal ≠ [] ∧ (∀ c ∈ literal.head?, isBlank c = false) ∧
      ∀ c ∈ literal.getLast?, isBlank c = false := by
  obtain ⟨quote, inside, hquote, rfl⟩ := h.ends
  have hblank : isBlank quote = false := by rcases hquote with rfl | rfl <;> decide
  refine ⟨by simp, ?_, ?_⟩
  · intro c hc
    obtain rfl : quote = c := by simpa using hc
    exact hblank
  · intro c hc
    rw [List.getLast?_concat] at hc
    obtain rfl : quote = c := by simpa using hc
    exact hblank

/-- Texts that differ in one literal are the same without their layout just if the literals are with
single spaces. -/
theorem squash_eq_squash_iff {front behind literal literal' : Text}
    (h : Dump.IsLiteral literal) (h' : Dump.IsLiteral literal') :
    squash (front ++ (literal ++ behind)) = squash (front ++ (literal' ++ behind)) ↔
      singleSpaced literal = singleSpaced literal' := by
  obtain ⟨hne, hhead, hlast⟩ := h.ends_not_blank
  obtain ⟨hne', hhead', hlast'⟩ := h'.ends_not_blank
  rw [squash_append hne hhead hlast, squash_append hne' hhead' hlast', List.append_cancel_left_eq,
    List.append_cancel_right_eq]

/-- In upper case too, just if the literals are in upper case. -/
theorem upper_squash_eq_iff {front behind literal literal' : Text}
    (h : Dump.IsLiteral literal) (h' : Dump.IsLiteral literal') :
    upper (squash (front ++ (literal ++ behind))) = upper (squash (front ++ (literal' ++ behind))) ↔
      upper (singleSpaced literal) = upper (singleSpaced literal') := by
  obtain ⟨hne, hhead, hlast⟩ := h.ends_not_blank
  obtain ⟨hne', hhead', hlast'⟩ := h'.ends_not_blank
  have happend (first second : Text) : upper (first ++ second) = upper first ++ upper second :=
    List.flatMap_append
  rw [squash_append hne hhead hlast, squash_append hne' hhead' hlast']
  simp only [happend, List.append_cancel_left_eq, List.append_cancel_right_eq]

end SchemaMigration
