import Mathlib.Data.List.Infix
import SchemaMigration.Text.Search

/-!
# Searching and replacing

Where a mark stands in a text, and what replacing the matches of a recogniser makes of one. The
latter is told from the left: where nothing is recognised a character stays, and where something
is, its replacement stands in front of what becomes of the rest. Most recognisers here do not mind
the character in front.

## Main Definitions

* `splitAtFirst?_eq_none`, `eq_append_of_splitAtFirst?` - whether a mark occurs, and where first
* `replaceMatches_cons`, `replaceMatches_of_some` - one step of replacing, from the left
* `replaceMatches_append_of_none` - a beginning in which nothing is recognised stays
* `Shortens` - a text gets shorter or stays as it is
* `replaceMatchesFrom_sublist` - taking something out adds nothing
* `replaceMatchesFrom_append` - texts one behind the other, across which nothing is recognised
-/

namespace SchemaMigration.Text

/-! ## Marks -/

section

variable {mark text rest : Text}

/-- What follows a text stands behind it. -/
theorem eq_append_of_after? {front : Text} (h : after? front text = some rest) :
    text = front ++ rest := by
  induction front generalizing text with
  | nil => exact Option.some.inj h
  | cons b front ih =>
      cases text with
      | nil => cases h
      | cons c text =>
          rw [after?] at h
          split at h
          · rename_i hbc
            rw [List.cons_append, ← hbc, ← ih h]
          · cases h

@[simp] theorem after?_self_append (mark rest : Text) : after? mark (mark ++ rest) = some rest := by
  induction mark with
  | nil => rw [List.nil_append, after?]
  | cons b mark ih => rw [List.cons_append, after?, if_pos rfl, ih]

/-- Something follows a mark only if the text begins with it. -/
theorem after?_eq_none (h : ¬ mark <+: text) : after? mark text = none := by
  cases hafter : after? mark text with
  | none => rfl
  | some rest => exact absurd ⟨rest, (eq_append_of_after? hafter).symm⟩ h

/-- What follows two beginnings follows the second one behind the first. -/
theorem after?_append (first second text : Text) :
    after? (first ++ second) text = (after? first text).bind (after? second) := by
  induction first generalizing text with
  | nil => simp [after?]
  | cons b first ih =>
      cases text with
      | nil => rfl
      | cons c text =>
          rw [List.cons_append, after?, after?, ih]
          split <;> rfl

/-- A text that is not parted at a mark does not have it. -/
theorem splitAtFirst?_eq_none (hne : mark ≠ []) :
    splitAtFirst? mark text = none ↔ ¬ mark <:+: text := by
  induction text with
  | nil => simp [splitAtFirst?, hne]
  | cons c text ih =>
      rw [List.infix_cons_iff, not_or, ← ih, splitAtFirst?]
      cases hafter : after? mark (c :: text) with
      | none =>
          have hbegins : ¬ mark <+: c :: text := by
            rintro ⟨rest, hrest⟩
            rw [← hrest, after?_self_append] at hafter
            cases hafter
          simp [hbegins]
      | some rest =>
          have hbegins : mark <+: c :: text := ⟨rest, (eq_append_of_after? hafter).symm⟩
          simp [hbegins]

/-- A text that is parted at a mark has it behind the first part, which does not. -/
theorem eq_append_of_splitAtFirst? {front : Text} (hne : mark ≠ [])
    (h : splitAtFirst? mark text = some (front, rest)) :
    text = front ++ mark ++ rest ∧ ¬ mark <:+: front := by
  induction text generalizing front with
  | nil => simp [splitAtFirst?, hne] at h
  | cons c text ih =>
      rw [splitAtFirst?] at h
      cases hafter : after? mark (c :: text) with
      | some behind =>
          obtain ⟨rfl, rfl⟩ : [] = front ∧ behind = rest := by simpa [hafter] using h
          exact ⟨eq_append_of_after? hafter, by simpa using hne⟩
      | none =>
          simp only [hafter, Option.map_eq_some_iff, Prod.mk.injEq] at h
          obtain ⟨⟨front, behind⟩, hsplit, rfl, rfl⟩ := h
          obtain ⟨rfl, hfront⟩ := ih hsplit
          refine ⟨rfl, ?_⟩
          rw [List.infix_cons_iff, not_or]
          refine ⟨?_, hfront⟩
          rintro ⟨more, hmore⟩
          have hbegins : mark <+: c :: (front ++ mark ++ behind) := by
            rw [List.append_assoc, ← List.cons_append, ← hmore]
            exact ⟨more ++ (mark ++ behind), by simp⟩
          obtain ⟨found, hfound⟩ := hbegins
          rw [← hfound, after?_self_append] at hafter
          cases hafter

end

/-! ## Replacing -/

variable {recognise : Text → Option (Text × Text)}

/-- What is passed over and what stands in front do not matter for what follows. -/
theorem replaceMatchesFrom_eq (previous : Option Char) (skipped : Nat) (text : Text) :
    replaceMatchesFrom (fun _ => recognise) previous skipped text
      = replaceMatches (fun _ => recognise) (text.drop skipped) := by
  induction text generalizing previous skipped with
  | nil => simp [replaceMatches, replaceMatchesFrom]
  | cons c text ih =>
      cases skipped with
      | succ skipped => rw [replaceMatchesFrom, ih, List.drop_succ_cons]
      | zero => simp only [replaceMatches, replaceMatchesFrom, List.drop_zero]

@[simp] theorem replaceMatches_nil : replaceMatches (fun _ => recognise) [] = [] := rfl

/-- Where nothing is recognised, a character stays. -/
theorem replaceMatches_cons {c : Char} {text : Text} (h : recognise (c :: text) = none) :
    replaceMatches (fun _ => recognise) (c :: text)
      = c :: replaceMatches (fun _ => recognise) text := by
  rw [replaceMatches, replaceMatchesFrom, h]
  simp only [replaceMatchesFrom_eq, List.drop_zero]

/-- Where something is recognised, its replacement takes its place. -/
theorem replaceMatches_of_some {c : Char} {text replacement rest : Text}
    (h : recognise (c :: text) = some (replacement, rest)) (hrest : rest <:+ text) :
    replaceMatches (fun _ => recognise) (c :: text)
      = replacement ++ replaceMatches (fun _ => recognise) rest := by
  rw [replaceMatches, replaceMatchesFrom, h]
  simp only [replaceMatchesFrom_eq]
  rw [← List.suffix_iff_eq_drop.mp hrest]

/-- A beginning stays if nothing is recognised from any of its places on. -/
theorem replaceMatches_append_of_none {front rest : Text}
    (h : ∀ text, text ≠ [] → text <:+ front → recognise (text ++ rest) = none) :
    replaceMatches (fun _ => recognise) (front ++ rest)
      = front ++ replaceMatches (fun _ => recognise) rest := by
  induction front with
  | nil => rfl
  | cons c front ih =>
      have hhead : recognise (c :: (front ++ rest)) = none := h (c :: front) (by simp) (by simp)
      rw [List.cons_append, replaceMatches_cons hhead, ih, List.cons_append]
      intro text hne htext
      exact h text hne (htext.trans (List.suffix_cons c front))

/-- A text gets shorter or stays as it is. -/
def Shortens (pass : Text → Text) : Prop :=
  ∀ text, pass text = text ∨ (pass text).length < text.length

theorem Shortens.length_le {pass : Text → Text} (h : Shortens pass) (text : Text) :
    (pass text).length ≤ text.length := by
  rcases h text with heq | hshorter
  · rw [heq]
  · exact hshorter.le

/-- What stays as it is behind two passes does so behind each of them. -/
theorem Shortens.eq_of_comp {first second : Text → Text} (hfirst : Shortens first)
    (hsecond : Shortens second) {text : Text} (h : second (first text) = text) :
    first text = text ∧ second text = text := by
  rcases hfirst text with heq | hshorter
  · exact ⟨heq, by rwa [heq] at h⟩
  · have hlength := hsecond.length_le (first text)
    rw [h] at hlength
    omega

theorem Shortens.comp {first second : Text → Text} (hsecond : Shortens second)
    (hfirst : Shortens first) : Shortens (second ∘ first) := by
  intro text
  rcases hfirst text with heq | hshorter
  · simpa [heq] using hsecond text
  · exact .inr ((hsecond.length_le (first text)).trans_lt hshorter)

/-- Replacing shortens a text if each replacement is shorter than what it replaces. -/
theorem shortens_replaceMatches (h : ∀ text replacement rest,
    recognise text = some (replacement, rest) →
      rest <:+ text.tail ∧ replacement.length + rest.length < text.length) :
    Shortens (replaceMatches fun _ => recognise) := by
  intro text
  induction hn : text.length using Nat.strong_induction_on generalizing text with
  | _ n ih =>
      cases text with
      | nil => exact .inl rfl
      | cons c text =>
          cases hfound : recognise (c :: text) with
          | none =>
              rw [replaceMatches_cons hfound]
              have htext := ih _ (by simp [← hn]) text rfl
              simpa [← hn] using htext
          | some found =>
              obtain ⟨replacement, rest⟩ := found
              obtain ⟨hrest, hshorter⟩ := h _ _ _ hfound
              have hbehind := ih rest.length (by omega) rest rfl
              have hlength : (replaceMatches (fun _ => recognise) rest).length ≤ rest.length := by
                rcases hbehind with heq | hless
                · rw [heq]
                · exact hless.le
              rw [replaceMatches_of_some hfound hrest, List.length_append]
              omega

/-! ## Recognisers that see what is in front -/

theorem append_of_splitAtMatchFrom? {recognise : Option Char → Text → Bool} {previous : Option Char}
    {text front rest : Text} (h : splitAtMatchFrom? recognise previous text = some (front, rest)) :
    text = front ++ rest := by
  induction text generalizing previous front with
  | nil => cases h
  | cons c text ih =>
      rw [splitAtMatchFrom?] at h
      split at h
      · obtain ⟨rfl, rfl⟩ := Prod.mk.inj (Option.some.inj h)
        rfl
      · obtain ⟨⟨head, behind⟩, hsplit, heq⟩ := Option.map_eq_some_iff.mp h
        obtain ⟨rfl, rfl⟩ := Prod.mk.inj heq
        rw [ih hsplit, List.cons_append]

/-- What is taken out of a text without anything in its place is left out of it. -/
theorem replaceMatchesFrom_sublist {recognise : Option Char → Text → Option (Text × Text)}
    (h : ∀ previous text found, recognise previous text = some found → found.1 = [])
    (previous : Option Char) (skipped : Nat) (text : Text) :
    (replaceMatchesFrom recognise previous skipped text).Sublist text := by
  induction text generalizing previous skipped with
  | nil => simp [replaceMatchesFrom]
  | cons c text ih =>
      cases skipped with
      | succ skipped => exact (ih (some c) skipped).cons c
      | zero =>
          rw [replaceMatchesFrom]
          split
          · rename_i replacement rest hfound
            obtain rfl : replacement = [] := h _ _ _ hfound
            exact (ih (some c) _).cons c
          · exact (ih (some c) 0).cons_cons c

/-- What is passed over only matters by its last character. -/
theorem replaceMatchesFrom_length_append (recognise : Option Char → Text → Option (Text × Text))
    (previous : Option Char) (front rest : Text) :
    replaceMatchesFrom recognise previous front.length (front ++ rest)
      = replaceMatchesFrom recognise (front.getLast?.or previous) 0 rest := by
  induction front generalizing previous with
  | nil => rfl
  | cons c front ih =>
      rw [List.length_cons, List.cons_append, replaceMatchesFrom, ih, List.getLast?_cons]
      cases front.getLast? <;> rfl

/-- Where something is recognised, its replacement takes its place. -/
theorem replaceMatchesFrom_of_some {recognise : Option Char → Text → Option (Text × Text)}
    {previous : Option Char} {front rest replacement : Text} (hne : front ≠ [])
    (h : recognise previous (front ++ rest) = some (replacement, rest)) :
    replaceMatchesFrom recognise previous 0 (front ++ rest)
      = replacement ++ replaceMatchesFrom recognise front.getLast? 0 rest := by
  obtain ⟨c, front, rfl⟩ := List.exists_cons_of_ne_nil hne
  rw [List.cons_append] at h ⊢
  have hlength : (front ++ rest).length - rest.length = front.length := by simp
  rw [replaceMatchesFrom, h]
  simp only [hlength]
  rw [replaceMatchesFrom_length_append, List.getLast?_cons]
  cases front.getLast? <;> rfl

/-- Where nothing is recognised, a character stays. -/
theorem replaceMatchesFrom_of_none {recognise : Option Char → Text → Option (Text × Text)}
    {previous : Option Char} {c : Char} {text : Text} (h : recognise previous (c :: text) = none) :
    replaceMatchesFrom recognise previous 0 (c :: text)
      = c :: replaceMatchesFrom recognise (some c) 0 text := by
  rw [replaceMatchesFrom, h]

/-- Texts one behind the other are taken each for itself, if what is recognised in the first one
does not depend on the second. -/
theorem replaceMatchesFrom_append {recognise : Option Char → Text → Option (Text × Text)}
    {front back : Text}
    (hbehind : ∀ previous text, text ≠ [] → text <:+ front → recognise previous (text ++ back)
      = (recognise previous text).map fun found => (found.1, found.2 ++ back))
    (hrest : ∀ previous text found, recognise previous text = some found → found.2 <:+ text.tail)
    (previous : Option Char) :
    replaceMatchesFrom recognise previous 0 (front ++ back)
      = replaceMatchesFrom recognise previous 0 front
        ++ replaceMatchesFrom recognise (front.getLast?.or previous) 0 back := by
  induction hn : front.length using Nat.strong_induction_on generalizing front previous with
  | _ n ih =>
      cases front with
      | nil => rfl
      | cons c front =>
          have hhead := hbehind previous (c :: front) (by simp) List.suffix_rfl
          -- what follows a part of the front is a shorter front
          have hshorter (used rest : Text) (hfront : c :: front = c :: used ++ rest) :
              replaceMatchesFrom recognise (c :: used).getLast? 0 (rest ++ back)
                = replaceMatchesFrom recognise (c :: used).getLast? 0 rest
                  ++ replaceMatchesFrom recognise ((c :: front).getLast?.or previous) 0 back := by
            have hlength : rest.length < n := by
              have hwhole := congrArg List.length hfront
              simp at hwhole hn
              omega
            rw [ih rest.length hlength
              (fun other text hne htext => hbehind other text hne (htext.trans ⟨_, hfront.symm⟩)) _
              rfl, hfront, List.getLast?_append, Option.or_assoc]
            simp [List.getLast?_cons]
          cases hfound : recognise previous (c :: front) with
          | none =>
              rw [hfound] at hhead
              have hnone : recognise previous (c :: (front ++ back)) = none := hhead
              rw [replaceMatchesFrom_of_none hfound, List.cons_append,
                replaceMatchesFrom_of_none hnone, List.cons_append]
              exact congrArg (c :: ·) (hshorter [] front rfl)
          | some found =>
              obtain ⟨replacement, rest⟩ := found
              obtain ⟨used, rfl⟩ : ∃ used, used ++ rest = front := hrest _ _ _ hfound
              have hsame : c :: (used ++ rest) = c :: used ++ rest := rfl
              rw [hfound, hsame, Option.map_some, List.append_assoc] at hhead
              rw [hsame] at hfound
              rw [hsame, replaceMatchesFrom_of_some (by simp) hfound, List.append_assoc (c :: used),
                replaceMatchesFrom_of_some (by simp) hhead, hshorter used rest rfl,
                List.append_assoc]
              rfl

end SchemaMigration.Text
