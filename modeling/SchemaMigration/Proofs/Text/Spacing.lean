import SchemaMigration.Proofs.Table.Line
import SchemaMigration.Proofs.Text.Phrase

/-!
# Recognisers and spacing

A run of blanks is as good as one space for the recognisers here: each finds the same in a text
with single spaces, and leaves the rest with single spaces. That holds of what is composed of them
as well, so whole readers do not mind the layout of what they read.

## Main Definitions

* `dropWhile_singleSpaced`, `trim_singleSpaced` - passing over characters
* `squash_singleSpaced` - a text with single spaces has the same words
* `IgnoresSpacing` - a recogniser that does not mind how many blanks there are
* `IgnoresSpacing.bind`, `IgnoresSpacing.orElse`, `IgnoresSpacing.optional` - composed recognisers
* `IgnoresSpacing.before` - what such a recogniser consumed
-/

namespace SchemaMigration.Text

/-! ## Texts with single spaces -/

/-- A text with single spaces begins as the text does. -/
theorem head?_singleSpaced (text : Text) :
    (singleSpaced text).head? = text.head?.map fun c => if isBlank c then ' ' else c := by
  induction text with
  | nil => rfl
  | cons c text ih =>
      cases hc : isBlank c with
      | false => simp [singleSpaced_cons_of_neg hc, hc]
      | true =>
          rw [singleSpaced_cons_of_pos hc]
          split
          · rename_i hhead
            cases text with
            | nil => cases hhead
            | cons d text =>
                have hd : isBlank d = true := hhead
                simp [ih, hc, hd]
          · simp [hc]

theorem exists_singleSpaced_cons {c : Char} (hc : isBlank c = true) (text : Text) :
    ∃ rest, singleSpaced (c :: text) = ' ' :: rest := by
  have hhead := head?_singleSpaced (c :: text)
  rw [List.head?_cons, Option.map_some, if_pos hc] at hhead
  exact List.head?_eq_some_iff.mp hhead

theorem any_isBlank_head?_singleSpaced (text : Text) :
    (singleSpaced text).head?.any isBlank = text.head?.any isBlank := by
  rw [head?_singleSpaced]
  cases text with
  | nil => rfl
  | cons c text => cases hc : isBlank c <;> simp [hc]; decide

@[simp] theorem singleSpaced_eq_nil {text : Text} : singleSpaced text = [] ↔ text = [] := by
  rw [← List.head?_eq_none_iff, head?_singleSpaced, Option.map_eq_none_iff, List.head?_eq_none_iff]

theorem length_singleSpaced_le (text : Text) : (singleSpaced text).length ≤ text.length := by
  induction text with
  | nil => rfl
  | cons c text ih =>
      rw [singleSpaced]
      split
      · split
        · exact ih.trans (by simp)
        · simpa using ih
      · simpa using ih

/-- There is nothing left to do. -/
@[simp] theorem singleSpaced_singleSpaced (text : Text) :
    singleSpaced (singleSpaced text) = singleSpaced text := by
  induction text with
  | nil => rfl
  | cons c text ih =>
      cases hc : isBlank c with
      | false => rw [singleSpaced_cons_of_neg hc, singleSpaced_cons_of_neg hc, ih]
      | true =>
          rw [singleSpaced_cons_of_pos hc]
          split
          · exact ih
          · rename_i hhead
            rw [singleSpaced_cons_of_pos (by decide), any_isBlank_head?_singleSpaced, if_neg hhead,
              ih]

/-- Characters among which are all blanks are passed over in a text with single spaces as in the
text. -/
theorem dropWhile_singleSpaced {inside : Char → Bool}
    (h : ∀ c, isBlank c = true → inside c = true) (text : Text) :
    (singleSpaced text).dropWhile inside = singleSpaced (text.dropWhile inside) := by
  induction text with
  | nil => rfl
  | cons c text ih =>
      cases hc : isBlank c with
      | false =>
          rw [singleSpaced_cons_of_neg hc, List.dropWhile_cons, List.dropWhile_cons]
          split
          · exact ih
          · rw [singleSpaced_cons_of_neg hc]
      | true =>
          rw [singleSpaced_cons_of_pos hc, List.dropWhile_cons, if_pos (h c hc)]
          split
          · exact ih
          · rw [List.dropWhile_cons, if_pos (h ' ' (by decide)), ih]

/-- Characters among which is no blank are as many in a text with single spaces, and the rest behind
them has single spaces. -/
theorem takeWhile_singleSpaced {inside : Char → Bool} (h : ∀ c, isBlank c = true → inside c = false)
    (text : Text) : (singleSpaced text).takeWhile inside = text.takeWhile inside ∧
      (singleSpaced text).dropWhile inside = singleSpaced (text.dropWhile inside) := by
  induction text with
  | nil => exact ⟨rfl, rfl⟩
  | cons c text ih =>
      cases hc : isBlank c with
      | false =>
          rw [singleSpaced_cons_of_neg hc]
          cases hinside : inside c with
          | false => simp [hinside, singleSpaced_cons_of_neg hc]
          | true => simp [hinside, ih]
      | true =>
          obtain ⟨rest, hrest⟩ := exists_singleSpaced_cons hc text
          rw [hrest]
          simp [h c hc, h ' ' (by decide), hrest]

theorem trimLeft_singleSpaced (text : Text) :
    trimLeft (singleSpaced text) = singleSpaced (trimLeft text) :=
  dropWhile_singleSpaced (fun _ hc => hc) text

theorem isBlank_singleSpaced {pad : Text} (h : ∀ c ∈ pad, isBlank c = true) :
    ∀ c ∈ singleSpaced pad, isBlank c = true := by
  have hgone := trimLeft_singleSpaced pad
  rwa [trimLeft, trimLeft, List.dropWhile_eq_nil_iff.mpr h, singleSpaced_nil,
    List.dropWhile_eq_nil_iff] at hgone

/-- A text ends with something else than a blank just if it does so with single spaces. -/
theorem getLast?_singleSpaced {text : Text} (h : ∀ c ∈ text.getLast?, isBlank c = false) :
    (singleSpaced text).getLast? = text.getLast? := by
  rcases List.eq_nil_or_concat text with rfl | ⟨front, c, rfl⟩
  · rfl
  · rw [List.concat_eq_append] at h ⊢
    have hc : isBlank c = false := h c (by simp)
    rw [singleSpaced_append (.inr (by simpa using hc)), singleSpaced_cons_of_neg hc,
      singleSpaced_nil, List.getLast?_concat, List.getLast?_concat]

theorem trimRight_singleSpaced (text : Text) :
    trimRight (singleSpaced text) = singleSpaced (trimRight text) := by
  obtain ⟨pad, hpad, htext⟩ := exists_trimRight text
  have hself : trimRight (singleSpaced (trimRight text)) = singleSpaced (trimRight text) := by
    refine trimRight_eq_self ?_
    rw [getLast?_singleSpaced getLast?_trimRight]
    exact getLast?_trimRight
  conv_lhs => rw [htext]
  rw [singleSpaced_append (.inl getLast?_trimRight),
    trimRight_append_of_blank _ (isBlank_singleSpaced hpad), hself]

theorem trim_singleSpaced (text : Text) : trim (singleSpaced text) = singleSpaced (trim text) := by
  rw [trim, trimLeft_singleSpaced, trimRight_singleSpaced, trim]

/-- A text with single spaces is the same without its layout. -/
@[simp] theorem squash_singleSpaced (text : Text) : squash (singleSpaced text) = squash text := by
  rw [squash_eq, trim_singleSpaced, singleSpaced_singleSpaced, squash_eq]

/-! ## Recognisers -/

/-- A recogniser that does not mind how many blanks there are. What it consumes is never empty, and
no run of blanks is parted by its end. -/
structure IgnoresSpacing (find : Text → Option Text) : Prop where
  singleSpaced : ∀ text, find (singleSpaced text) = (find text).map singleSpaced
  parts : ∀ {text rest}, find text = some rest → ∃ front, front ≠ [] ∧ text = front ++ rest ∧
    ((∀ c ∈ front.getLast?, isBlank c = false) ∨ ∀ c ∈ rest.head?, isBlank c = false)

variable {first second : Text → Option Text}

/-- What was consumed of a text with single spaces. -/
theorem IgnoresSpacing.before {find : Text → Option Text} (h : IgnoresSpacing find)
    {text rest : Text} (hfind : find text = some rest) :
    before (Text.singleSpaced text) (Text.singleSpaced rest) =
      Text.singleSpaced (before text rest) := by
  obtain ⟨front, -, rfl, hparts⟩ := h.parts hfind
  rw [singleSpaced_append hparts, before_append, before_append]

/-- What is made of the rest is the same if it is the same of a rest with single spaces. -/
theorem IgnoresSpacing.bind_map {α : Type} {find : Text → Option Text} (h : IgnoresSpacing find)
    {same : α → α} {read next : Text → Option α} {text : Text}
    (hnext : ∀ rest, find text = some rest → read (Text.singleSpaced rest) = (next rest).map same) :
    (find (Text.singleSpaced text)).bind read = ((find text).bind next).map same := by
  rw [h.singleSpaced]
  cases hfind : find text with
  | none => rfl
  | some rest => exact hnext rest hfind

theorem IgnoresSpacing.bind (hfirst : IgnoresSpacing first) (hsecond : IgnoresSpacing second) :
    IgnoresSpacing fun text => (first text).bind second where
  singleSpaced text := by
    rw [hfirst.singleSpaced]
    cases first text with
    | none => rfl
    | some rest => exact hsecond.singleSpaced rest
  parts {text rest} h := by
    obtain ⟨mid, hmid, hrest⟩ := Option.bind_eq_some_iff.mp h
    obtain ⟨front, -, rfl, -⟩ := hfirst.parts hmid
    obtain ⟨inside, hne, rfl, hparts⟩ := hsecond.parts hrest
    refine ⟨front ++ inside, List.append_ne_nil_of_right_ne_nil _ hne, by simp, ?_⟩
    rwa [List.getLast?_append_of_ne_nil _ hne]

theorem IgnoresSpacing.orElse (hfirst : IgnoresSpacing first) (hsecond : IgnoresSpacing second) :
    IgnoresSpacing fun text => first text <|> second text where
  singleSpaced text := by
    rw [hfirst.singleSpaced]
    cases first text with
    | none => exact hsecond.singleSpaced text
    | some rest => rfl
  parts h := by
    rcases eq_some_of_orElse h with hfound | hfound
    · exact hfirst.parts hfound
    · exact hsecond.parts hfound

/-- A recogniser with another one behind it that need not find anything. -/
theorem IgnoresSpacing.optional (hfirst : IgnoresSpacing first) (hsecond : IgnoresSpacing second) :
    IgnoresSpacing fun text => (first text).map fun rest => (second rest).getD rest where
  singleSpaced text := by
    rw [hfirst.singleSpaced]
    cases first text with
    | none => rfl
    | some rest =>
        rw [Option.map_some, Option.map_some, Option.map_some, hsecond.singleSpaced]
        cases second rest <;> rfl
  parts {text rest} h := by
    obtain ⟨mid, hmid, rfl⟩ := Option.map_eq_some_iff.mp h
    cases hrest : second mid with
    | none => exact hfirst.parts hmid
    | some rest => exact (hfirst.bind hsecond).parts (by rw [hmid, Option.bind_some, hrest]; rfl)

/-- The first of several recognisers that finds something. -/
theorem IgnoresSpacing.findSome? {α : Type} {find : α → Text → Option Text} {items : List α}
    (h : ∀ item ∈ items, IgnoresSpacing (find item)) :
    IgnoresSpacing fun text => items.findSome? (find · text) := by
  induction items with
  | nil => exact ⟨fun _ => rfl, fun hnone => by cases hnone⟩
  | cons item items ih =>
      obtain ⟨hfirst, hmore⟩ := List.forall_mem_cons.mp h
      have hcons : (fun text => (item :: items).findSome? (find · text)) =
          fun text => find item text <|> items.findSome? (find · text) := by
        funext text
        rw [List.findSome?_cons]
        cases find item text <;> rfl
      rw [hcons]
      exact hfirst.orElse (ih hmore)

theorem ignoresSpacing_blanks? : IgnoresSpacing blanks? where
  singleSpaced text := by
    cases text with
    | nil => rfl
    | cons c text =>
        cases hc : isBlank c with
        | false =>
            rw [singleSpaced_cons_of_neg hc, blanks?, blanks?, hc]
            rfl
        | true =>
            have hblanks : blanks? (c :: text) = some (trimLeft (c :: text)) := by
              rw [blanks?, if_pos hc, trimLeft, trimLeft, List.dropWhile_cons, if_pos hc]
            obtain ⟨rest, hrest⟩ := exists_singleSpaced_cons hc text
            rw [hblanks, Option.map_some, ← trimLeft_singleSpaced, hrest]
            rfl
  parts h := by
    obtain ⟨gap, hgap, htext, hhead⟩ := blanks?_eq_some.mp h
    exact ⟨gap, hgap.ne_nil, htext, .inr hhead⟩

theorem ignoresSpacing_keyword? {keyword : Text} (h : IsKeyword keyword) :
    IgnoresSpacing (keyword? keyword) where
  singleSpaced text := by
    have hletters := h.2
    clear h
    induction keyword generalizing text with
    | nil => rfl
    | cons letter keyword ih =>
        obtain ⟨hletter, hmore⟩ := List.forall_mem_cons.mp hletters
        cases text with
        | nil => rfl
        | cons c text =>
            cases hc : isBlank c with
            | false =>
                rw [singleSpaced_cons_of_neg hc, keyword?, keyword?]
                split
                · exact ih text hmore
                · rfl
            | true =>
                -- no blank spells a letter
                have hnone {d : Char} (hd : isBlank d = true) : spells letter d = false := by
                  rw [Bool.eq_false_iff]
                  intro hspells
                  have hword := isBlank_of_isWordCharacter (spelled_by hletter hspells).1
                  rw [hd] at hword
                  cases hword
                have hfails {d : Char} (hd : isBlank d = true) (rest : Text) :
                    keyword? (letter :: keyword) (d :: rest) = none := by
                  rw [keyword?, hnone hd]
                  rfl
                obtain ⟨rest, hrest⟩ := exists_singleSpaced_cons hc text
                rw [hrest, hfails (by decide), hfails hc]
                rfl
  parts hfound := by
    obtain ⟨word, hword, rfl⟩ := keyword?_eq_some.mp hfound
    exact ⟨word, hword.ne_nil h, rfl,
      .inl fun c hc => hword.isBlank h c (List.mem_of_getLast? hc)⟩

theorem ignoresSpacing_afterKeyword? {keyword : Text} (h : IsKeyword keyword) :
    IgnoresSpacing (afterKeyword? keyword) :=
  ignoresSpacing_blanks?.bind (ignoresSpacing_keyword? h)

theorem ignoresSpacing_keywords? {keyword : Text} {keywords : List Text}
    (h : ∀ other ∈ keyword :: keywords, IsKeyword other) :
    IgnoresSpacing (keywords? (keyword :: keywords)) := by
  induction keywords generalizing keyword with
  | nil => exact ignoresSpacing_keyword? (h keyword (by simp))
  | cons next keywords ih =>
      obtain ⟨hfirst, hmore⟩ := List.forall_mem_cons.mp h
      rw [keywords?_cons_cons]
      exact ((ignoresSpacing_keyword? hfirst).bind ignoresSpacing_blanks?).bind (ih hmore)

theorem ignoresSpacing_anyKeyword? {keywords : List Text}
    (h : ∀ keyword ∈ keywords, IsKeyword keyword) : IgnoresSpacing (anyKeyword? keywords) :=
  .findSome? fun keyword hkeyword => ignoresSpacing_keyword? (h keyword hkeyword)

/-- A word and what follows it. -/
theorem word?_singleSpaced (text : Text) :
    word? (singleSpaced text) = (word? text).map fun (word, rest) => (word, singleSpaced rest) := by
  have hinside : ∀ c, isBlank c = true → (! isBlank c) = false := by simp +contextual
  obtain ⟨htake, hdrop⟩ := takeWhile_singleSpaced hinside text
  rw [word?, word?, htake, hdrop]
  split <;> rfl

/-- A name and what follows it. -/
theorem name?_singleSpaced (text : Text) :
    name? (singleSpaced text) = (name? text).map fun (name, rest) => (name, singleSpaced rest) := by
  have hinside : ∀ c, isBlank c = true → (! isBlank c && c != '(') = false := by simp +contextual
  obtain ⟨htake, hdrop⟩ := takeWhile_singleSpaced hinside text
  rw [name?, name?, htake, hdrop]
  split <;> rfl

theorem ignoresSpacing_word? : IgnoresSpacing fun text => (word? text).map (·.2) where
  singleSpaced text := by
    rw [word?_singleSpaced]
    cases word? text <;> rfl
  parts h := by
    obtain ⟨⟨word, rest⟩, hfound, rfl⟩ := Option.map_eq_some_iff.mp h
    obtain ⟨hword, htext, -⟩ := word?_eq_some.mp hfound
    exact ⟨word, hword.ne_nil, htext, .inl fun c hc => hword.isBlank c (List.mem_of_getLast? hc)⟩

/-- A mark that is no blank. -/
theorem ignoresSpacing_after? {mark : Char} (h : isBlank mark = false) :
    IgnoresSpacing (after? [mark]) where
  singleSpaced text := by
    have hread (c : Char) (text : Text) : after? [mark] (c :: text) =
        if mark = c then some text else none := by
      rw [after?]
      rfl
    cases text with
    | nil => rfl
    | cons c text =>
        cases hc : isBlank c with
        | false =>
            rw [singleSpaced_cons_of_neg hc, hread, hread]
            split <;> rfl
        | true =>
            have hne {d : Char} (hd : isBlank d = true) : mark ≠ d := by
              rintro rfl
              rw [h] at hd
              cases hd
            obtain ⟨rest, hrest⟩ := exists_singleSpaced_cons hc text
            rw [hrest, hread, hread, if_neg (hne (by decide)), if_neg (hne hc)]
            rfl
  parts hfound := by
    refine ⟨[mark], by simp, eq_append_of_after? hfound, .inl ?_⟩
    rintro c ⟨⟩
    exact h

/-- A text in parentheses behind blanks. -/
theorem ignoresSpacing_closing :
    IgnoresSpacing fun text => (upToClosing? (trimLeft text)).map (·.2) where
  singleSpaced text := by
    rw [trimLeft_singleSpaced]
    cases htrim : trimLeft text with
    | nil => rfl
    | cons c behind =>
        have hc : isBlank c = false := isBlank_of_trimLeft_eq_cons htrim
        rw [singleSpaced_cons_of_neg hc]
        by_cases hopen : c = '('
        · have hpasses : ∀ c, isBlank c = true → (c != ')') = true := by
            rintro c hblank
            rw [bne_iff_ne]
            rintro rfl
            exact absurd hblank (by decide)
          rw [hopen, upToClosing?, upToClosing?, dropWhile_singleSpaced hpasses]
          cases hdrop : behind.dropWhile (· != ')') with
          | nil => rfl
          | cons close rest =>
              obtain rfl : close = ')' := by simpa using of_dropWhile_eq_cons hdrop
              rw [singleSpaced_cons_of_neg (by decide)]
              rfl
        · have hnone (rest : Text) : upToClosing? (c :: rest) = none := by
            unfold upToClosing?
            split
            · rename_i heq
              exact absurd (List.cons.inj heq).1 hopen
            · rfl
          rw [hnone, hnone]
          rfl
  parts {text rest} h := by
    obtain ⟨⟨found, rest⟩, hfound, rfl⟩ := Option.map_eq_some_iff.mp h
    obtain ⟨inner, -, rfl, htext⟩ := upToClosing?_eq_some.mp hfound
    refine ⟨text.takeWhile isBlank ++ ('(' :: inner ++ [')']), by simp, ?_, .inl fun c hc => ?_⟩
    · rw [List.append_assoc, ← htext, trimLeft, List.takeWhile_append_dropWhile]
    · rw [← List.append_assoc, List.getLast?_concat] at hc
      cases hc
      decide

end SchemaMigration.Text
