import SchemaMigration.Proofs.Routine.Spacing
import SchemaMigration.Proofs.Table.OptionLines

/-!
# Reading all characteristics

Characteristics are read one after the other until none stands in front. Nothing but blanks is lost
on the way: what was read and the body have the visible characters of the text, in their order. And
the body begins with no characteristic, although blanks at its end, in front of which reading had
stopped, are gone from it.

## Main Definitions

* `Routine.ReadsAll` - the rounds of reading, down to a rest in front of which nothing is read
* `Routine.readsAll_characteristicsUpTo` - there are as many rounds as it takes
* `Routine.ReadsAll.visible` - the visible characters of what is read and of the rest
* `Text.Endures` - a recogniser that blanks behind the text do not keep from finding something
* `Routine.characteristic?_trim_eq_none` - nothing is read from a body either
* `Routine.characteristicsAndBody_exhaustive` - all of this, of any text

## Design Notes

Blanks behind a text may be consumed together with blanks at its end, so a recogniser need not leave
them as they are. `Endures` tells what is left only where something is left: a recogniser behind
another one finds nothing otherwise.
-/

namespace SchemaMigration

open Text

/-! ## Blanks behind a text -/

namespace Text

/-- A recogniser that finds something also where blanks are behind the text. They are behind what is
left as well, if anything is. -/
structure Endures (find : Text → Option Text) : Prop where
  nil : find [] = none
  append : ∀ {text rest pad}, (∀ c ∈ pad, isBlank c = true) → find text = some rest →
    ∃ behind, find (text ++ pad) = some behind ∧ (rest ≠ [] → behind = rest ++ pad)

/-- Of two readers one returns nothing just if both do. -/
theorem orElse_eq_none {α : Type} {first second : Option α} :
    (first <|> second) = none ↔ first = none ∧ second = none := by
  cases first <;> simp

section

variable {find first second : Text → Option Text} {text pad : Text}

theorem Endures.eq_none (h : Endures find) (hpad : ∀ c ∈ pad, isBlank c = true)
    (hnone : find (text ++ pad) = none) : find text = none := by
  cases hfind : find text with
  | none => rfl
  | some rest =>
      obtain ⟨behind, hbehind, -⟩ := h.append hpad hfind
      rw [hnone] at hbehind
      cases hbehind

/-- The second recogniser finds something, so something is left by the first one. -/
theorem Endures.bind (hfirst : Endures first) (hsecond : Endures second) :
    Endures fun text => (first text).bind second where
  nil := by rw [hfirst.nil, Option.bind_none]
  append {text rest pad} hpad h := by
    obtain ⟨mid, hmid, hrest⟩ := Option.bind_eq_some_iff.mp h
    have hne : mid ≠ [] := by
      rintro rfl
      rw [hsecond.nil] at hrest
      cases hrest
    obtain ⟨behind, hbehind, hleft⟩ := hfirst.append hpad hmid
    simp only [hbehind, Option.bind_some, hleft hne]
    exact hsecond.append hpad hrest

theorem endures_blanks? : Endures blanks? where
  nil := rfl
  append {text rest pad} hpad h := by
    obtain ⟨gap, hgap, rfl, hrest⟩ := blanks?_eq_some.mp h
    by_cases hne : rest = []
    · -- the blanks behind the text are more of those that are consumed
      subst hne
      have hmore : IsGap (gap ++ pad) := by
        refine ⟨List.append_ne_nil_of_left_ne_nil hgap.ne_nil _, fun c hc => ?_⟩
        exact (List.mem_append.mp hc).elim (hgap.isBlank c) (hpad c)
      exact ⟨[], blanks?_eq_some.mpr ⟨_, hmore, by simp, by simp⟩, fun h => absurd rfl h⟩
    · refine ⟨rest ++ pad, blanks?_eq_some.mpr ⟨gap, hgap, by simp, ?_⟩, fun _ => rfl⟩
      rwa [List.head?_append_of_ne_nil _ hne]

theorem endures_keyword? {keyword : Text} (h : IsKeyword keyword) : Endures (keyword? keyword) where
  nil := by
    obtain ⟨letter, keyword, rfl⟩ := List.exists_cons_of_ne_nil h.1
    rfl
  append {text rest pad} _ hfound := by
    obtain ⟨word, hword, rfl⟩ := keyword?_eq_some.mp hfound
    exact ⟨rest ++ pad, keyword?_eq_some.mpr ⟨word, hword, by simp⟩, fun _ => rfl⟩

theorem endures_keywords? {keyword : Text} {keywords : List Text}
    (h : ∀ other ∈ keyword :: keywords, IsKeyword other) :
    Endures (keywords? (keyword :: keywords)) := by
  induction keywords generalizing keyword with
  | nil => exact endures_keyword? (h keyword (by simp))
  | cons next keywords ih =>
      obtain ⟨hfirst, hmore⟩ := List.forall_mem_cons.mp h
      rw [keywords?_cons_cons]
      exact ((endures_keyword? hfirst).bind endures_blanks?).bind (ih hmore)

theorem endures_word? : Endures fun text => (word? text).map (·.2) where
  nil := rfl
  append {text rest pad} hpad h := by
    obtain ⟨⟨word, rest⟩, hfound, rfl⟩ := Option.map_eq_some_iff.mp h
    obtain ⟨hword, rfl, hrest⟩ := word?_eq_some.mp hfound
    have hhead : ∀ c ∈ (rest ++ pad).head?, isBlank c = true := by
      cases rest with
      | nil => exact fun c hc => hpad c (List.mem_of_mem_head? hc)
      | cons d rest => exact hrest
    refine ⟨rest ++ pad, ?_, fun _ => rfl⟩
    rw [word?_eq_some.mpr ⟨hword, List.append_assoc .., hhead⟩, Option.map_some]

theorem endures_after? {mark : Text} (h : mark ≠ []) : Endures (after? mark) where
  nil := after?_eq_none fun hprefix => h (List.prefix_nil.mp hprefix)
  append {text rest pad} _ hfound := by
    rw [eq_append_of_after? hfound, List.append_assoc]
    exact ⟨rest ++ pad, after?_self_append .., fun _ => rfl⟩

end

end Text

namespace Routine

/-- Blanks are no part of what ends a literal. -/
theorem literalEnd?_append_blank {pad : Text} (hpad : ∀ c ∈ pad, isBlank c = true) (text : Text) :
    literalEnd? (text ++ pad) = (literalEnd? text).map (· ++ pad) := by
  have hnone : literalEnd? pad = none := by
    induction pad with
    | nil => rfl
    | cons c pad ih =>
        obtain ⟨hc, hmore⟩ := List.forall_mem_cons.mp hpad
        rw [literalEnd?_blank hc, ih hmore]
  induction text using literalEnd?.induct with
  | case1 => exact hnone
  | case2 text ih =>
      rw [List.cons_append, List.cons_append, literalEnd?, literalEnd?, ih]
      cases literalEnd? text <;> rfl
  | case3 text hne =>
      have hsingle : ∀ rest, text ++ pad = '\x27' :: rest → False := by
        intro rest hrest
        cases text with
        | nil =>
            rw [List.nil_append] at hrest
            have hquote := hpad '\x27' (by simp [hrest])
            exact absurd hquote (by decide)
        | cons c text => exact hne text (by rw [(List.cons.inj hrest).1])
      rw [List.cons_append, literalEnd?.eq_3 _ hsingle, literalEnd?.eq_3 _ hne, Option.map_some]
  | case4 =>
      cases pad with
      | nil => rfl
      | cons c pad =>
          rw [literalEnd?_blank (hpad c (by simp))] at hnone
          show literalEnd? ('\\' :: c :: pad) = none
          rw [literalEnd?, hnone]
  | case5 c text ih => rw [List.cons_append, List.cons_append, literalEnd?, literalEnd?, ih]
  | case6 c text _ hne hlast hmore ih =>
      have hbackslash := ne_backslash hlast hmore
      rw [List.cons_append, literalEnd?_other hne hbackslash, literalEnd?_other hne hbackslash, ih]

theorem endures_literalEnd? : Endures literalEnd? where
  nil := rfl
  append {text rest pad} hpad h := by
    refine ⟨rest ++ pad, ?_, fun _ => rfl⟩
    rw [literalEnd?_append_blank hpad, h, Option.map_some]

section

variable {text pad : Text} (hpad : ∀ c ∈ pad, isBlank c = true)

include hpad

theorem comment?_eq_none_of_append (h : comment? (text ++ pad) = none) : comment? text = none := by
  have hcomment : Endures comment? := by
    rw [comment?_eq]
    exact (((endures_keyword? (by decide)).bind endures_blanks?).bind
      (endures_after? (by decide))).bind endures_literalEnd?
  exact hcomment.eq_none hpad h

/-- A result type is found just if its first word is: all that may follow is optional. -/
theorem resultType?_eq_none_of_append (h : resultType? (text ++ pad) = none) :
    resultType? text = none := by
  have hnone (text : Text) : resultType? text = none ↔
      (((keyword? "RETURNS" text).bind blanks?).bind
        fun text => (word? text).map (·.2)) = none := by
    simp only [resultType?, Option.bind_eq_bind, Option.pure_def]
    cases keyword? "RETURNS" text with
    | none => simp
    | some clause =>
        cases hblanks : blanks? clause with
        | none => simp [hblanks]
        | some word => cases hword : word? word <;> simp [hblanks, hword]
  have hresult : Endures fun text =>
      ((keyword? "RETURNS" text).bind blanks?).bind fun text => (word? text).map (·.2) :=
    ((endures_keyword? (by decide)).bind endures_blanks?).bind endures_word?
  rw [hnone] at h ⊢
  exact hresult.eq_none hpad h

theorem item?_eq_none_of_append
    (h : (resultType? (text ++ pad) <|> comment? (text ++ pad) <|>
      fixedCharacteristics.findSome? (keywords? · (text ++ pad))) = none) :
    (resultType? text <|> comment? text <|>
      fixedCharacteristics.findSome? (keywords? · text)) = none := by
  simp only [orElse_eq_none, List.findSome?_eq_none_iff] at h ⊢
  obtain ⟨hresult, hcomment, hfixed⟩ := h
  refine ⟨resultType?_eq_none_of_append hpad hresult, comment?_eq_none_of_append hpad hcomment, ?_⟩
  intro keywords hmem
  obtain ⟨keyword, more, rfl, hkeywords⟩ := exists_of_mem_fixedCharacteristics hmem
  exact (endures_keywords? hkeywords).eq_none hpad (hfixed _ hmem)

end

/-- Nothing is read from a body: the blanks at its ends make no difference. -/
theorem characteristic?_trim_eq_none {text : Text} (h : characteristic? text = none) :
    characteristic? (trim text) = none := by
  rw [characteristic?_eq, Option.map_eq_none_iff] at h ⊢
  obtain ⟨pad, hpad, htext⟩ := exists_trimRight (trimLeft text)
  rw [htext] at h
  rw [trimLeft_trim]
  exact item?_eq_none_of_append hpad h

/-! ## Rounds of reading -/

/-- Reading characteristics from a text until none stands in front: those that are read, and the
rest. -/
inductive ReadsAll : (text : Text) → (items : List Text) → (rest : Text) → Prop
  | done {text : Text} (h : characteristic? text = none) : ReadsAll text [] text
  | more {text item behind rest : Text} {items : List Text}
      (h : characteristic? text = some (item, behind)) (hmore : ReadsAll behind items rest) :
      ReadsAll text (item :: items) rest

/-- A round takes at least one character, so as many rounds as there are characters suffice. -/
theorem readsAll_characteristicsUpTo {count : Nat} {text : Text} (h : text.length ≤ count) :
    ReadsAll text (characteristicsUpTo count text).1 (characteristicsUpTo count text).2 := by
  induction count generalizing text with
  | zero =>
      obtain rfl : text = [] := List.length_eq_zero_iff.mp (by omega)
      exact .done (by decide)
  | succ count ih =>
      unfold characteristicsUpTo
      cases hfound : characteristic? text with
      | none => exact .done hfound
      | some found =>
          obtain ⟨item, behind⟩ := found
          have hshorter := length_lt_of_characteristic? hfound
          exact .more hfound (ih (by omega))

section

variable {text rest : Text} {items : List Text}

theorem ReadsAll.characteristic?_eq_none (h : ReadsAll text items rest) :
    characteristic? rest = none := by
  induction h with
  | done h => exact h
  | more _ _ ih => exact ih

/-- A round loses nothing but blanks. -/
theorem visible_of_characteristic? {item behind : Text}
    (h : characteristic? text = some (item, behind)) :
    visible text = visible item ++ visible behind := by
  rw [characteristic?_eq, Option.map_eq_some_iff] at h
  obtain ⟨rest, hrest, heq⟩ := h
  obtain ⟨rfl, rfl⟩ := Prod.mk.inj heq
  obtain ⟨front, -, htext, -⟩ := ignoresSpacing_item?.parts hrest
  rw [visible_squash, ← visible_trimLeft, htext, before_append, visible_append]

theorem ReadsAll.visible (h : ReadsAll text items rest) :
    visible (items.flatten ++ rest) = visible text := by
  induction h with
  | done _ => rfl
  | more hfound _ ih =>
      rw [visible_of_characteristic? hfound, List.flatten_cons, List.append_assoc, visible_append,
        ih]

end

/-- Reading ends, after rounds of which each reads what stands in front then. What is read and the
body are the text but for blanks, and no more is to be read from the body. -/
theorem characteristicsAndBody_exhaustive (text : Text) :
    (∃ rest, ReadsAll text (characteristicsAndBody text).1 rest ∧
      (characteristicsAndBody text).2 = trim rest) ∧
    visible ((characteristicsAndBody text).1.flatten ++ (characteristicsAndBody text).2) =
      visible text ∧
    characteristic? (characteristicsAndBody text).2 = none := by
  have hreads := readsAll_characteristicsUpTo (le_refl text.length)
  have hvisible := hreads.visible
  refine ⟨⟨_, hreads, rfl⟩, ?_, characteristic?_trim_eq_none hreads.characteristic?_eq_none⟩
  rw [visible_append] at hvisible
  rw [visible_append, ← hvisible]
  exact congrArg _ (visible_trim _)

end Routine

end SchemaMigration
