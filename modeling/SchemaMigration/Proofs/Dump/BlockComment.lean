import SchemaMigration.Proofs.Dump.CommentReader

/-!
# Block comments of a dump

The three passes over block comments take no notice of quotes: they go by the two characters
that open a comment and the two that close it. In an orderly text these marks mean what they
say, and then each pass treats the comments one by one, and what stands in front of a fence
apart from what stands behind it.

## Main Definitions

* `openBlockComments` - the last three passes of decoding
* `IsOrderly` - every opening mark has its closing mark, and no comment makes up another mark
* `Becomes` - what a pass makes of an orderly text, comment by comment
* `openBlockComments_append` - what is orderly is decoded apart from what follows
* `openBlockComments_eq_self_iff` - what is orderly stays as it is just if it has no comment

## Design Notes

A comment that goes takes the spaces behind it along, and a semicolon too. So marks could form
where it stood; an asterisk must not follow a comment, whatever of this stands between them.
-/

namespace SchemaMigration.Dump

open Text

/-- The text with settings gone, executable comments opened and block comments gone. -/
def openBlockComments (text : Text) : Text :=
  blocks.pass (executables.pass (settings.pass text))

/-- No comment in front of the text makes an opening mark with it. -/
def FollowsComment (text : Text) : Prop := (text.dropWhile isCommentTail).head? ≠ some '*'

instance (text : Text) : Decidable (FollowsComment text) :=
  inferInstanceAs (Decidable ((text.dropWhile isCommentTail).head? ≠ some '*'))

/-- A text in which opening marks open comments that are closed and hold no other mark. -/
inductive IsOrderly : Text → Prop
  | nil : IsOrderly []
  | char {c : Char} {text : Text} (hmark : c = '/' → text.head? ≠ some '*')
      (hrest : IsOrderly text) : IsOrderly (c :: text)
  | block {inside text : Text} (hclosing : ¬ closingMark <:+: inside)
      (hopening : ¬ openingMark <:+: inside ++ closingMark) (hfollows : FollowsComment text)
      (hrest : IsOrderly text) : IsOrderly (blockText inside ++ text)

/-- A text without an opening mark may stand in front of an orderly one. -/
theorem IsOrderly.append {front text : Text} (h : IsOrderly text)
    (hfront : ¬ openingMark <:+: front) (hlast : front.getLast? = some '/' →
      text.head? ≠ some '*') : IsOrderly (front ++ text) := by
  induction front with
  | nil => exact h
  | cons c front ih =>
      rw [List.infix_cons_iff, not_or, openingMark_prefix_cons, not_and] at hfront
      refine .char ?_ (ih hfront.2 ?_)
      · intro hc
        cases front with
        | nil => exact hlast (by simp [hc])
        | cons d front => simpa using hfront.1 hc
      · intro hfrontLast
        cases front with
        | nil => simp at hfrontLast
        | cons d front => exact hlast (by simpa using hfrontLast)

/-- A text without an opening mark is orderly. -/
theorem isOrderly_of_not_isInfix {text : Text} (h : ¬ openingMark <:+: text) : IsOrderly text := by
  have happend := IsOrderly.nil.append h (by simp)
  rwa [List.append_nil] at happend

/-- What may go together with a comment may as well be missing. -/
theorem followsComment_append {eaten text : Text} (h : ∀ c ∈ eaten, isCommentTail c = true) :
    FollowsComment (eaten ++ text) ↔ FollowsComment text := by
  rw [FollowsComment, FollowsComment, List.dropWhile_append_of_pos h]

/-- What follows a comment does not begin with an asterisk. -/
theorem FollowsComment.head?_ne {text : Text} (h : FollowsComment text) :
    text.head? ≠ some '*' := by
  cases text with
  | nil => simp
  | cons c text =>
      intro hc
      obtain rfl : c = '*' := by simpa using hc
      exact h (by simp [isCommentTail])

/-- What is taken along does not change that something follows a comment. -/
theorem FollowsComment.skip {skip : Text → Text} {text : Text} (hfollows : FollowsComment text)
    (h : IsSkip skip) : FollowsComment (skip text) := by
  obtain ⟨eaten, heaten, heq⟩ := h.exists_eaten text
  rw [heq] at hfollows
  exact (followsComment_append heaten).mp hfollows

/-- Without its end, what follows a comment still does. -/
theorem FollowsComment.of_append {front rest : Text} (h : FollowsComment (front ++ rest)) :
    FollowsComment front := by
  rw [FollowsComment, List.dropWhile_append] at h
  split at h
  · rename_i hnil
    simp [FollowsComment, List.isEmpty_iff.mp hnil]
  · rename_i hne
    rwa [List.head?_append_of_ne_nil _ (by simpa using hne)] at h

/-- Behind its first character, no place of a comment opens another one. -/
theorem not_openingMark_isPrefix {front inside rest : Text} (hne : front ≠ [])
    (hsuffix : front <:+ '*' :: inside ++ closingMark)
    (hopening : ¬ openingMark <:+: inside ++ closingMark) (hrest : rest.head? ≠ some '*') :
    ¬ openingMark <+: front ++ rest := by
  obtain ⟨c, front, rfl⟩ := List.exists_cons_of_ne_nil hne
  rw [List.cons_append, openingMark_prefix_cons]
  rintro ⟨rfl, hhead⟩
  have hinside : '/' :: front <:+ inside ++ closingMark := by
    simpa [List.suffix_cons_iff] using hsuffix
  cases front with
  | nil => exact hrest (by simpa using hhead)
  | cons d front =>
      obtain rfl : d = '*' := by simpa using hhead
      exact hopening (List.IsInfix.trans ⟨[], front, rfl⟩ hinside.isInfix)

/-- What is left of an orderly text without characters that may go with a comment. -/
theorem IsOrderly.of_append {eaten text : Text} (h : IsOrderly (eaten ++ text))
    (heaten : ∀ c ∈ eaten, isCommentTail c = true) : IsOrderly text := by
  induction eaten with
  | nil => exact h
  | cons c eaten ih =>
      have hc : isCommentTail c = true := heaten c (by simp)
      refine ih ?_ (fun d hd => heaten d (List.mem_cons_of_mem _ hd))
      generalize hwhole : c :: eaten ++ text = whole at h
      cases h with
      | nil => simp at hwhole
      | char _ hrest =>
          obtain ⟨-, rfl⟩ := List.cons.inj hwhole
          exact hrest
      | block _ _ _ _ =>
          have : c = '/' := by simpa [blockText, openingMark] using (List.cons.inj hwhole).1
          simp [this, isCommentTail] at hc

/-- Without its last character, an orderly text is orderly, unless it ends in a comment. -/
theorem IsOrderly.of_concat {c : Char} {text : Text} (h : IsOrderly (text ++ [c]))
    (hc : c ≠ '/') : IsOrderly text := by
  generalize hwhole : text ++ [c] = whole at h
  induction h generalizing text with
  | nil => simp at hwhole
  | char hmark _ ih =>
      cases text with
      | nil => exact .nil
      | cons d text =>
          obtain ⟨rfl, rfl⟩ := List.cons.inj hwhole
          refine .char ?_ (ih rfl)
          intro hd
          cases text with
          | nil => simp
          | cons e text => exact hmark hd
  | @block inside rest hclosing hopening hfollows hrest ih =>
      obtain rfl | ⟨rest, d, rfl⟩ := rest.eq_nil_or_concat
      · have hlast := congrArg List.getLast? hwhole
        simp [blockText, closingMark, List.getLast?_append] at hlast
        exact absurd hlast hc
      · rw [List.concat_eq_append] at hfollows ih hwhole
        obtain ⟨rfl, rfl⟩ : text = blockText inside ++ rest ∧ c = d := by
          rw [← List.append_assoc] at hwhole
          simpa using List.append_inj' hwhole rfl
        exact .block hclosing hopening hfollows.of_append (ih rfl)

/-! ## One pass -/

/-- What a reader of comments makes of an orderly text. -/
inductive Becomes (reader : CommentReader) : Text → Text → Prop
  | nil : Becomes reader [] []
  | char {c : Char} {text result : Text} (hmark : c = '/' → text.head? ≠ some '*')
      (hrest : Becomes reader text result) : Becomes reader (c :: text) (c :: result)
  | stays {inside text result : Text} (hclosing : ¬ closingMark <:+: inside)
      (hopening : ¬ openingMark <:+: inside ++ closingMark) (hfollows : FollowsComment text)
      (hfind : reader.find inside = none) (hrest : Becomes reader text result) :
      Becomes reader (blockText inside ++ text) (blockText inside ++ result)
  | goes {inside found text result : Text} (hclosing : ¬ closingMark <:+: inside)
      (hopening : ¬ openingMark <:+: inside ++ closingMark) (hfollows : FollowsComment text)
      (hfind : reader.find inside = some found)
      (hrest : Becomes reader (reader.skip text) result) :
      Becomes reader (blockText inside ++ text) (reader.place found ++ result)

variable {reader : CommentReader} {text result rest : Text}

/-- Every orderly text becomes something. The induction is on the length, because a comment may
take along what follows it. -/
theorem IsOrderly.exists_becomes (h : IsOrderly text) (reader : CommentReader) :
    ∃ result, Becomes reader text result := by
  induction hn : text.length using Nat.strong_induction_on generalizing text with
  | _ n ih =>
      cases h with
      | nil => exact ⟨[], .nil⟩
      | char hmark hrest =>
          obtain ⟨result, hresult⟩ := ih _ (by simp [← hn]) hrest rfl
          exact ⟨_, .char hmark hresult⟩
      | @block inside text hclosing hopening hfollows hrest =>
          have hlength : text.length < n := by
            simp only [← hn, blockText, openingMark, List.length_append, List.length_cons]
            omega
          cases hfind : reader.find inside with
          | none =>
              obtain ⟨result, hresult⟩ := ih _ hlength hrest rfl
              exact ⟨_, .stays hclosing hopening hfollows hfind hresult⟩
          | some found =>
              have hshorter := (reader.isSkip.suffix text).length_le
              obtain ⟨eaten, heaten, heq⟩ := reader.isSkip.exists_eaten text
              have horderly : IsOrderly (reader.skip text) := (heq ▸ hrest).of_append heaten
              obtain ⟨result, hresult⟩ := ih _ (hshorter.trans_lt hlength) horderly rfl
              exact ⟨_, .goes hclosing hopening hfollows hfind hresult⟩

namespace Becomes

/-- A text that begins with an asterisk behind a pass began with it before. -/
theorem head?_eq (h : Becomes reader text result) (hhead : result.head? = some '*') :
    text.head? = some '*' := by
  induction h with
  | nil => exact hhead
  | char hmark hrest ih => simpa using hhead
  | stays => simp [blockText, openingMark] at hhead
  | @goes inside found text result hclosing hopening hfollows hfind hrest ih =>
      exfalso
      -- if anything takes the place of the comment, it begins with a newline
      rcases reader.place_eq with hplace | hplace
      · rw [hplace] at hhead
        exact (hfollows.skip reader.isSkip).head?_ne (ih hhead)
      · simp [hplace] at hhead

/-- What follows a comment still does behind a pass. -/
theorem followsComment (h : Becomes reader text result) (hfollows : FollowsComment text) :
    FollowsComment result := by
  induction h with
  | nil => exact hfollows
  | @char c text result hmark hrest ih =>
      by_cases hc : isCommentTail c = true
      · have happend (rest : Text) : FollowsComment (c :: rest) ↔ FollowsComment rest :=
          show FollowsComment ([c] ++ rest) ↔ _ from followsComment_append (by simpa using hc)
        exact (happend result).mpr (ih ((happend text).mp hfollows))
      · simpa [FollowsComment, hc] using hfollows
  | stays => simp [FollowsComment, blockText, openingMark, isCommentTail]
  | @goes inside found text result hclosing hopening hbehind hfind hrest ih =>
      rcases reader.place_eq with hplace | hplace
      · rw [hplace]
        exact ih (hbehind.skip reader.isSkip)
      · simp [hplace, FollowsComment, isCommentTail]

/-- An orderly text is orderly behind a pass. -/
theorem isOrderly (h : Becomes reader text result) : IsOrderly result := by
  induction h with
  | nil => exact .nil
  | char hmark hrest ih => exact .char (fun hc hhead => hmark hc (hrest.head?_eq hhead)) ih
  | stays hclosing hopening hfollows _ hrest ih =>
      exact .block hclosing hopening (hrest.followsComment hfollows) ih
  | goes hclosing hopening hfollows hfind hrest ih =>
      have hplace := reader.not_openingMark_place hfind
        fun hoccurs => hopening (hoccurs.trans (List.prefix_append _ _).isInfix)
      refine ih.append hplace fun _ hhead => ?_
      exact (hfollows.skip reader.isSkip).head?_ne (hrest.head?_eq hhead)

/-- A pass treats what is orderly apart from what stands behind a fence. -/
theorem pass_append (h : Becomes reader text result) (hrest : IsFence rest) :
    reader.pass (text ++ rest) = result ++ reader.pass rest := by
  induction h with
  | nil => rfl
  | @char c text result hmark _ ih =>
      rw [List.cons_append, reader.pass_cons (reader.read_eq_none ?_), ih, List.cons_append]
      rw [openingMark_prefix_cons]
      rintro ⟨hc, hhead⟩
      cases text with
      | nil => exact (hrest '*' (by simpa using hhead)).2.1 rfl
      | cons d text => exact hmark hc (by simpa using hhead)
  | @stays inside text result hclosing hopening hfollows hfind _ ih =>
      rw [List.append_assoc, CommentReader.pass, replaceMatches_append_of_none,
        ← CommentReader.pass, ih, List.append_assoc]
      -- the comment is of another kind, and nothing in it opens one
      intro front hne hsuffix
      obtain rfl | hsuffix : front = blockText inside ∨ front <:+ '*' :: inside ++ closingMark := by
        simpa [blockText, openingMark, List.suffix_cons_iff] using hsuffix
      · rw [reader.read_blockText hclosing, hfind, Option.map_none]
      · refine reader.read_eq_none (not_openingMark_isPrefix hne hsuffix hopening ?_)
        intro hhead
        cases text with
        | nil => exact (hrest '*' (by simpa using hhead)).2.1 rfl
        | cons d text => exact hfollows.head?_ne (by simpa using hhead)
  | @goes inside found text result hclosing _ _ hfind _ ih =>
      have hread : reader.read (blockText inside ++ (text ++ rest))
          = some (reader.place found, reader.skip text ++ rest) := by
        rw [reader.read_blockText hclosing, hfind, Option.map_some,
          reader.isSkip.append _ _ hrest]
      rw [List.append_assoc, reader.pass_of_read hread, ih, List.append_assoc]

/-- A pass makes of an orderly text what it becomes. -/
theorem pass_eq (h : Becomes reader text result) : reader.pass text = result := by
  have happend := h.pass_append isFence_nil
  rwa [List.append_nil, CommentReader.pass, CommentReader.pass, replaceMatches_nil,
    List.append_nil] at happend

/-- The last pass leaves no comment. -/
theorem not_openingMark_isInfix (h : Becomes blocks text result) : ¬ openingMark <:+: result := by
  induction h with
  | nil => decide
  | char hmark hrest ih =>
      rw [List.infix_cons_iff, not_or, openingMark_prefix_cons, not_and]
      exact ⟨fun hc hhead => hmark hc (hrest.head?_eq hhead), ih⟩
  | stays _ _ _ hfind => cases hfind
  | goes _ _ _ _ _ ih => exact ih

end Becomes

namespace IsOrderly

/-- An orderly text is orderly behind a pass. -/
theorem pass (h : IsOrderly text) (reader : CommentReader) : IsOrderly (reader.pass text) := by
  obtain ⟨result, hresult⟩ := h.exists_becomes reader
  exact hresult.pass_eq ▸ hresult.isOrderly

/-- A pass treats what is orderly apart from what stands behind a fence. -/
theorem pass_append (h : IsOrderly text) (reader : CommentReader) (hrest : IsFence rest) :
    reader.pass (text ++ rest) = reader.pass text ++ reader.pass rest := by
  obtain ⟨result, hresult⟩ := h.exists_becomes reader
  rw [hresult.pass_append hrest, hresult.pass_eq]

end IsOrderly

/-! ## All three passes -/

/-- What stands behind a fence does so behind a pass. -/
theorem IsFence.pass (h : IsFence rest) (reader : CommentReader) : IsFence (reader.pass rest) := by
  cases rest with
  | nil => exact h
  | cons c rest =>
      have hc := isFence_cons.mp h
      have hmark : ¬ openingMark <+: c :: rest := fun h => hc.2.2 (openingMark_prefix_cons.mp h).1
      rw [reader.pass_cons (reader.read_eq_none hmark)]
      exact isFence_cons.mpr hc

/-- What is orderly is decoded apart from what stands behind a fence. -/
theorem openBlockComments_append (h : IsOrderly text) (hrest : IsFence rest) :
    openBlockComments (text ++ rest) = openBlockComments text ++ openBlockComments rest := by
  have hfirst := h.pass settings
  rw [openBlockComments, h.pass_append settings hrest,
    hfirst.pass_append executables (hrest.pass settings),
    (hfirst.pass executables).pass_append blocks ((hrest.pass settings).pass executables)]
  rfl

theorem shortens_openBlockComments : Shortens openBlockComments :=
  (blocks.shortens_pass.comp executables.shortens_pass).comp settings.shortens_pass

@[simp] theorem openBlockComments_nil : openBlockComments [] = [] := rfl

/-- A text without an opening mark stays in front of anything that it makes no mark with. -/
theorem openBlockComments_append_of_not_isInfix {front : Text} (h : ¬ openingMark <:+: front)
    (hlast : front.getLast? = some '/' → rest = []) :
    openBlockComments (front ++ rest) = front ++ openBlockComments rest := by
  have hpass (reader : CommentReader) {rest : Text}
      (hlast : front.getLast? = some '/' → rest = []) :
      reader.pass (front ++ rest) = front ++ reader.pass rest := by
    refine replaceMatches_append_of_none fun text hne hsuffix => reader.read_eq_none ?_
    obtain ⟨c, text, rfl⟩ := List.exists_cons_of_ne_nil hne
    rw [List.cons_append, openingMark_prefix_cons]
    rintro ⟨rfl, hhead⟩
    cases text with
    | nil =>
        obtain ⟨front, rfl⟩ := hsuffix
        simp [hlast (by simp)] at hhead
    | cons d text =>
        obtain rfl : d = '*' := by simpa using hhead
        exact h (List.IsInfix.trans ⟨[], text, rfl⟩ hsuffix.isInfix)
  have hnil (reader : CommentReader) {rest : Text} (hrest : rest = []) : reader.pass rest = [] := by
    rw [hrest]
    rfl
  rw [openBlockComments, hpass settings hlast, hpass executables fun hc => hnil _ (hlast hc),
    hpass blocks fun hc => hnil _ (hnil _ (hlast hc))]
  rfl

/-- A character that is no slash stays in front of anything. -/
theorem openBlockComments_cons {c : Char} (hc : c ≠ '/') (rest : Text) :
    openBlockComments (c :: rest) = c :: openBlockComments rest := by
  have hmark : ¬ openingMark <:+: [c] :=
    fun hoccurs => absurd hoccurs.length_le (by simp [openingMark])
  exact openBlockComments_append_of_not_isInfix hmark (by simp [hc])

/-- A text without an opening mark stays. -/
theorem openBlockComments_of_not_isInfix (h : ¬ openingMark <:+: text) :
    openBlockComments text = text := by
  have hwhole : openBlockComments (text ++ []) = text ++ openBlockComments [] :=
    openBlockComments_append_of_not_isInfix h fun _ => rfl
  rwa [openBlockComments_nil, List.append_nil] at hwhole

/-- An orderly text stays as it is just if it has no comment. -/
theorem openBlockComments_eq_self_iff (h : IsOrderly text) :
    openBlockComments text = text ↔ ¬ openingMark <:+: text := by
  refine ⟨fun heq => ?_, openBlockComments_of_not_isInfix⟩
  obtain ⟨result, hresult⟩ := ((h.pass settings).pass executables).exists_becomes blocks
  have hwhole : text = result := heq.symm.trans hresult.pass_eq
  exact hwhole ▸ hresult.not_openingMark_isInfix

end SchemaMigration.Dump
