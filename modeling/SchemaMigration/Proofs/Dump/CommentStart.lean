import SchemaMigration.Proofs.Dump.LineComment
import SchemaMigration.Proofs.Dump.QuotedText
import SchemaMigration.Proofs.Text.LineEnd

/-!
# Where line comments begin

Read from the left, a text falls into passages: literals, identifiers in backquotes, block comments,
line comments, and single characters between them. Stripping leaves out the line comments of this
reading, each up to the end of its line, and nothing else. So every line keeps its beginning, up to
the first line comment that begins in it.

## Main Definitions

* `Opening` - what a text begins with
* `IsPassage` - what is read as one, in front of the rest of the text
* `BeginsLineComment` - reading comes to a place where a line comment begins
* `CutsLines` - a text each of whose lines is cut where something begins
* `stripLineComments_cutsLines` - stripping cuts each line where a line comment begins

## Design Notes

A passage depends on what stands behind it: two hyphens open a comment in front of a blank only.
What never ends is no passage, so reading does not come to the end of a text with an open literal,
and nothing behind its quote is a place where a line comment could begin.
-/

namespace SchemaMigration.Dump

open Text

/-! ## Passages -/

/-- What a text begins with, outside literals, identifiers in backquotes and comments. -/
inductive Opening
  /-- A literal or an identifier in the given quotes. -/
  | quote (quote : Char)
  | blockComment
  | lineComment
  /-- Nothing of the sort. -/
  | plain

/-- Whether a text begins with a mark of line comments: a number sign, or two hyphens in front of a
space, a tab, a line break or the end of the text. -/
def opensLineComment : Text → Bool
  | '#' :: _ => true
  | ['-', '-'] => true
  | '-' :: '-' :: c :: _ => c ∈ [' ', '\t', '\r', '\n']
  | _ => false

/-- What a text begins with. -/
def opening : Text → Opening
  | [] => .plain
  | c :: text =>
    if c ∈ ['\x27', '\x22', '\x60'] then .quote c
    else if openingMark <+: c :: text then .blockComment
    else if opensLineComment (c :: text) then .lineComment
    else .plain

/-- A text that may stand between two quotes. In literals a backslash escapes the next character, in
identifiers it does not. -/
def IsQuoted (quote : Char) (inside : Text) : Prop :=
  if quote = '\x60' then '\x60' ∉ inside else isLiteralBody quote inside = true

/-- What is read as one in front of the rest of a text: what is quoted, a block comment, a line
comment up to the end of its line, or a character. -/
def IsPassage (passage behind : Text) : Prop :=
  match opening (passage ++ behind) with
  | .quote quote => ∃ inside, passage = quote :: inside ++ [quote] ∧ IsQuoted quote inside
  | .blockComment => ∃ inside, passage = blockText inside ∧ ¬ closingMark <:+: inside
  | .lineComment => '\n' ∉ passage ∧ OpensLine behind
  | .plain => passage.length = 1

/-- Reading a text passage by passage comes from its beginning `front` to its rest. -/
inductive Reaches : (front rest : Text) → Prop
  | start (rest : Text) : Reaches [] rest
  | passage {passage front rest : Text} (hpassage : IsPassage passage (front ++ rest))
      (hmore : Reaches front rest) : Reaches (passage ++ front) rest

/-- A line comment of a text begins behind `front`. -/
def BeginsLineComment (text front : Text) : Prop :=
  ∃ rest, text = front ++ rest ∧ Reaches front rest ∧ opensLineComment rest = true

section

variable {passage behind front rest text inside : Text} {quote c : Char}

theorem opening_eq_lineComment : opening text = .lineComment ↔ opensLineComment text = true := by
  constructor
  · intro h
    unfold opening at h
    split at h
    · cases h
    · split_ifs at h with hquote hblock hline
      exact hline
  · intro h
    unfold opensLineComment at h
    split at h
    · rfl
    · rfl
    · rename_i c rest
      have hmem : c ∈ [' ', '\t', '\r', '\n'] := by simpa using h
      simp [opening, opensLineComment, hmem, openingMark]
    · cases h

theorem IsPassage.ne_nil (h : IsPassage passage behind) : passage ≠ [] := by
  rintro rfl
  unfold IsPassage at h
  rw [List.nil_append] at h
  cases hopening : opening behind with
  | plain => simp [hopening] at h
  | quote quote => simp [hopening] at h
  | blockComment => simp [hopening, blockText, openingMark] at h
  | lineComment =>
      rw [hopening] at h
      rcases h.2 with rfl | hhead
      · cases hopening
      · obtain ⟨rest, rfl⟩ := List.head?_eq_some_iff.mp hhead
        cases hopening

/-! ## One reading -/

/-- What is quoted does not go on behind the quote that ends it. -/
theorem IsQuoted.not_append (hquote : quote ∈ ['\x27', '\x22', '\x60']) (h : IsQuoted quote inside)
    (back : Text) : ¬ IsQuoted quote (inside ++ quote :: back) := by
  unfold IsQuoted at h ⊢
  split at h
  · rename_i hbackquote
    simp [hbackquote]
  · rename_i hbackquote
    have hslash : quote ≠ '\\' := by
      rintro rfl
      simp at hquote
    simp [hbackquote, isLiteralBody_append_quote hslash h]

/-- What is quoted ends at one place only. -/
theorem IsQuoted.unique (hquote : quote ∈ ['\x27', '\x22', '\x60']) {other back back' : Text}
    (h : IsQuoted quote inside) (hother : IsQuoted quote other)
    (heq : inside ++ quote :: back = other ++ quote :: back') : inside = other :=
  eq_of_append_cons (IsQuoted quote) (fun h more => h.not_append hquote more) h hother heq

theorem mem_of_opening_eq_quote (h : opening text = .quote quote) :
    quote ∈ ['\x27', '\x22', '\x60'] ∧ text.head? = some quote := by
  unfold opening at h
  split at h
  · cases h
  · split_ifs at h with hquote hblock hline
    obtain rfl := Opening.quote.inj h
    exact ⟨hquote, rfl⟩

/-- A text begins with one passage at most. -/
theorem IsPassage.unique {other behind' : Text} (h : IsPassage passage behind)
    (hother : IsPassage other behind') (heq : passage ++ behind = other ++ behind') :
    passage = other := by
  unfold IsPassage at h hother
  rw [← heq] at hother
  cases hopening : opening (passage ++ behind) with
  | quote quote =>
      rw [hopening] at h hother
      obtain ⟨inside, rfl, hinside⟩ := h
      obtain ⟨inside', rfl, hinside'⟩ := hother
      have hbehind : inside ++ quote :: behind = inside' ++ quote :: behind' := by
        simpa using heq
      rw [hinside.unique (mem_of_opening_eq_quote hopening).1 hinside' hbehind]
  | blockComment =>
      rw [hopening] at h hother
      obtain ⟨inside, rfl, hinside⟩ := h
      obtain ⟨inside', rfl, hinside'⟩ := hother
      have hsplit := splitAtFirst?_closingMark hinside behind
      have hbehind : inside ++ closingMark ++ behind = inside' ++ closingMark ++ behind' := by
        simpa [blockText] using heq
      rw [hbehind, splitAtFirst?_closingMark hinside'] at hsplit
      rw [(Prod.mk.inj (Option.some.inj hsplit)).1]
  | lineComment =>
      rw [hopening] at h hother
      have htake {front rest : Text} (hfront : '\n' ∉ front) (hrest : OpensLine rest) :
          (front ++ rest).takeWhile (· != '\n') = front := by
        refine takeWhile_append_of_ends (fun c hc => ?_) fun c hc => ?_
        · rw [bne_iff_ne]
          rintro rfl
          exact hfront hc
        · rcases hrest with rfl | hhead
          · cases hc
          · obtain rfl : '\n' = c := by simpa [hhead] using hc
            rfl
      rw [← htake h.1 h.2, heq, htake hother.1 hother.2]
  | plain =>
      rw [hopening] at h hother
      exact (List.append_inj heq (h.trans hother.symm)).1

/-- Reading goes on behind the first passage, unless it has not begun. -/
theorem Reaches.cases_of_isPassage (h : IsPassage passage behind) (hreaches : Reaches front rest)
    (heq : front ++ rest = passage ++ behind) :
    front = [] ∨ ∃ more, front = passage ++ more ∧ more ++ rest = behind ∧ Reaches more rest := by
  cases hreaches with
  | start => exact .inl rfl
  | @passage other more _ hother hmore =>
      rw [List.append_assoc] at heq
      obtain rfl := hother.unique h heq
      exact .inr ⟨more, rfl, List.append_cancel_left heq, hmore⟩

/-- A line comment begins at a passage, or behind it where one begins in what follows. -/
theorem beginsLineComment_append_iff (h : IsPassage passage behind) :
    BeginsLineComment (passage ++ behind) front ↔
      front = [] ∧ opensLineComment (passage ++ behind) = true ∨
        ∃ more, front = passage ++ more ∧ BeginsLineComment behind more := by
  constructor
  · rintro ⟨rest, htext, hreaches, hopens⟩
    rcases hreaches.cases_of_isPassage h htext.symm with rfl | ⟨more, rfl, hbehind, hmore⟩
    · exact .inl ⟨rfl, htext ▸ hopens⟩
    · exact .inr ⟨more, rfl, rest, hbehind.symm, hmore, hopens⟩
  · rintro (⟨rfl, hopens⟩ | ⟨more, rfl, rest, rfl, hmore, hopens⟩)
    · exact ⟨passage ++ behind, rfl, .start _, hopens⟩
    · exact ⟨rest, by simp, .passage h hmore, hopens⟩

/-! ## Stripping passages -/

theorem opensLineComment_iff : opensLineComment text = true ↔ (∃ behind, text = '#' :: behind) ∨
    ∃ behind, text = '-' :: '-' :: behind ∧ opensDashComment behind = true := by
  constructor
  · intro h
    unfold opensLineComment at h
    split at h
    · exact .inl ⟨_, rfl⟩
    · exact .inr ⟨[], rfl, rfl⟩
    · rename_i c behind
      exact .inr ⟨c :: behind, rfl, by simpa [opensDashComment, or_assoc] using h⟩
    · cases h
  · rintro (⟨behind, rfl⟩ | ⟨behind, rfl, hdash⟩)
    · rfl
    · cases behind with
      | nil => rfl
      | cons c behind => simpa [opensLineComment, opensDashComment, or_assoc] using hdash

/-- A line comment is left out. -/
theorem stripLineComments_lineComment (h : IsPassage passage behind)
    (hopens : opensLineComment (passage ++ behind) = true) :
    stripLineComments (passage ++ behind) = stripLineComments behind := by
  have hne := h.ne_nil
  unfold IsPassage at h
  rw [opening_eq_lineComment.mpr hopens] at h
  obtain ⟨hnewline, hbehind⟩ := h
  obtain ⟨c, inside, rfl⟩ := List.exists_cons_of_ne_nil hne
  have hline {inside : Text} (hinside : '\n' ∉ inside) :
      stripLineCommentsFrom .line (inside ++ behind) = stripLineComments behind := by
    rw [Dump.stripLineCommentsFrom_line hinside, hbehind.stripLineCommentsFrom_line]
    rfl
  rw [List.mem_cons, not_or] at hnewline
  rcases opensLineComment_iff.mp hopens with ⟨rest, hrest⟩ | ⟨rest, hrest, hdash⟩
  · obtain ⟨rfl, -⟩ := List.cons.inj hrest
    exact hline hnewline.2
  · obtain ⟨rfl, hbehindHyphen⟩ := List.cons.inj hrest
    cases inside with
    | nil =>
        -- the second hyphen is no end of a line
        obtain rfl : behind = '-' :: rest := hbehindHyphen
        simp [OpensLine] at hbehind
    | cons d inside =>
        obtain ⟨rfl, rfl⟩ := List.cons.inj hbehindHyphen
        rw [List.mem_cons, not_or] at hnewline
        rw [← hline hnewline.2.2]
        exact if_pos hdash

theorem stripLineCommentsFrom_backquoted_cons (c : Char) (text : Text) :
    stripLineCommentsFrom (.quoted '\x60') (c :: text) =
      c :: stripLineCommentsFrom (if c = '\x60' then .code else .quoted '\x60') text := by
  by_cases hc : c = '\\'
  · subst hc
    cases text with
    | nil => rfl
    | cons d text => rfl
  · rw [stripLineCommentsFrom]
    exact fun _ _ heq => absurd heq hc

/-- What is quoted stays, and so does what stands behind it in code. -/
theorem stripLineCommentsFrom_quoted (hquote : quote ∈ ['\x27', '\x22', '\x60'])
    (h : IsQuoted quote inside) (behind : Text) :
    stripLineCommentsFrom (.quoted quote) (inside ++ quote :: behind)
      = inside ++ quote :: stripLineComments behind := by
  unfold IsQuoted at h
  split at h
  · rename_i hbackquote
    subst hbackquote
    induction inside with
    | nil => rfl
    | cons c inside ih =>
        rw [List.mem_cons, not_or] at h
        rw [List.cons_append, stripLineCommentsFrom_backquoted_cons, if_neg (Ne.symm h.1), ih h.2]
        rfl
  · rename_i hbackquote
    have hquote' : quote = '\x27' ∨ quote = '\x22' := by simpa [hbackquote] using hquote
    exact stripLineCommentsFrom_literalBody hquote' h behind

/-- Where the quote is missing, all of the text stays. -/
theorem stripLineCommentsFrom_open (hquote : quote ∈ ['\x27', '\x22', '\x60'])
    (h : ∀ inside rest, text = inside ++ quote :: rest → ¬ IsQuoted quote inside) :
    stripLineCommentsFrom (.quoted quote) text = text := by
  by_cases hbackquote : quote = '\x60'
  · subst hbackquote
    have hnone : '\x60' ∉ text := by
      intro hmem
      obtain ⟨inside, rest, htext, hinside⟩ := List.eq_append_cons_of_mem hmem
      exact h inside rest htext (by simpa [IsQuoted] using hinside)
    clear h
    induction text with
    | nil => rfl
    | cons c text ih =>
        rw [List.mem_cons, not_or] at hnone
        rw [stripLineCommentsFrom_backquoted_cons, if_neg (Ne.symm hnone.1), ih hnone.2]
  · simp only [IsQuoted, if_neg hbackquote] at h
    fun_induction isLiteralBody quote text with
    | case1 => rfl
    | case2 c text ih =>
      rw [stripLineCommentsFrom, if_neg hbackquote, ih]
      intro inside rest heq hbody
      exact h ('\\' :: c :: inside) rest (by rw [heq]; rfl) hbody
    | case3 c text hescape ih =>
      have hc : c ≠ quote := by
        rintro rfl
        exact h [] text rfl rfl
      have hrest : stripLineCommentsFrom (.quoted quote) text = text := by
        refine ih fun inside rest heq hbody => ?_
        have hslash : c ≠ '\\' := by
          rintro rfl
          cases text with
          | nil => simp at heq
          | cons d text => exact hescape d text rfl rfl
        refine h (c :: inside) rest (by rw [heq]; rfl) ?_
        rw [isLiteralBody, hbody]
        · simp [hc, hslash]
        · exact fun _ _ heq => absurd heq hslash
      rw [stripLineCommentsFrom, if_neg hc, hrest]
      rintro d rest rfl rfl
      exact hescape d rest rfl rfl

/-- A block comment is read as one up to the first mark that closes it. -/
theorem stripLineCommentsFrom_block (h : ¬ closingMark <:+: inside) (rest : Text)
    (hrest : rest.head? ≠ some '/') : stripLineCommentsFrom .block (inside ++ rest)
      = inside ++ stripLineCommentsFrom .block rest := by
  induction inside with
  | nil => rfl
  | cons c inside ih =>
      rw [List.infix_cons_iff, not_or] at h
      rw [List.cons_append, stripLineCommentsFrom, ih h.2, List.cons_append]
      rintro behind rfl heq
      cases inside with
      | nil => exact hrest (by rw [← List.nil_append rest, heq]; rfl)
      | cons d inside =>
          obtain ⟨rfl, -⟩ := List.cons.inj heq
          exact h.1 ⟨inside, rfl⟩

theorem stripLineComments_plain (h : opening (c :: text) = .plain) :
    stripLineComments (c :: text) = c :: stripLineComments text := by
  unfold opening at h
  simp only at h
  split_ifs at h with hquote hblock hline
  have hcode : isQuote c = false := by simpa [isQuote, and_assoc] using hquote
  by_cases hhyphens : c = '-' ∧ text.head? = some '-'
  · obtain ⟨rfl, hhead⟩ := hhyphens
    obtain ⟨rest, rfl⟩ := List.head?_eq_some_iff.mp hhead
    have hdash : ¬ opensDashComment rest = true :=
      fun hdash => hline (opensLineComment_iff.mpr (.inr ⟨rest, rfl, hdash⟩))
    exact if_neg hdash
  · rw [stripLineComments, stripLineCommentsFrom, hcode]
    · rfl
    · rintro rest rfl rfl
      exact hblock ⟨rest, rfl⟩
    · rintro rfl
      exact hline rfl
    · rintro rest rfl rfl
      exact hhyphens ⟨rfl, rfl⟩

theorem exists_of_opening_eq_blockComment (h : opening text = .blockComment) :
    ∃ rest, text = '/' :: '*' :: rest := by
  unfold opening at h
  split at h
  · cases h
  · split_ifs at h with hquote hblock hline
    obtain ⟨rest, hrest⟩ := hblock
    exact ⟨rest, hrest.symm⟩

theorem stripLineComments_quote (hquote : quote ∈ ['\x27', '\x22', '\x60']) (text : Text) :
    stripLineComments (quote :: text) = quote :: stripLineCommentsFrom (.quoted quote) text := by
  simp only [List.mem_cons, List.not_mem_nil, or_false] at hquote
  rcases hquote with rfl | rfl | rfl <;>
    exact stripLineComments_cons (by decide) (by decide) (by decide) text

/-- Any other passage stays. -/
theorem stripLineComments_passage (h : IsPassage passage behind)
    (hopens : opensLineComment (passage ++ behind) = false) :
    stripLineComments (passage ++ behind) = passage ++ stripLineComments behind := by
  unfold IsPassage at h
  cases hopening : opening (passage ++ behind) with
  | quote quote =>
      rw [hopening] at h
      obtain ⟨inside, rfl, hinside⟩ := h
      have hquote := (mem_of_opening_eq_quote hopening).1
      have hstrip := stripLineCommentsFrom_quoted hquote hinside behind
      simp only [List.append_assoc, List.cons_append, List.nil_append]
      rw [stripLineComments_quote hquote, hstrip]
  | blockComment =>
      rw [hopening] at h
      obtain ⟨inside, rfl, hinside⟩ := h
      have hstrip := stripLineCommentsFrom_block hinside (closingMark ++ behind)
        (by simp [closingMark])
      have htext : blockText inside ++ behind
          = '/' :: '*' :: (inside ++ (closingMark ++ behind)) := by
        simp [blockText, openingMark]
      rw [htext]
      change '/' :: '*' :: stripLineCommentsFrom .block _ = _
      rw [hstrip]
      simp [blockText, openingMark, closingMark, stripLineCommentsFrom, stripLineComments]
  | lineComment =>
      rw [opening_eq_lineComment.mp hopening] at hopens
      cases hopens
  | plain =>
      rw [hopening] at h
      obtain ⟨c, rfl⟩ := List.length_eq_one_iff.mp h
      exact stripLineComments_plain hopening

/-- A line comment ends with its line, or with the text. -/
theorem exists_isPassage_of_opensLineComment (h : opensLineComment text = true) :
    ∃ passage behind, text = passage ++ behind ∧ IsPassage passage behind := by
  have hsplit := List.takeWhile_append_dropWhile (p := (· != '\n')) (l := text)
  refine ⟨_, _, hsplit.symm, ?_⟩
  unfold IsPassage
  rw [hsplit, opening_eq_lineComment.mpr h]
  refine ⟨fun hmem => by simpa using List.mem_takeWhile_imp hmem, ?_⟩
  cases hdrop : text.dropWhile (· != '\n') with
  | nil => exact .inl rfl
  | cons c behind =>
      obtain rfl : c = '\n' := by simpa using of_dropWhile_eq_cons hdrop
      exact .inr rfl

/-- What begins with no passage stays as it is. -/
theorem stripLineComments_of_not_isPassage
    (h : ∀ passage behind, text = passage ++ behind → ¬ IsPassage passage behind) :
    stripLineComments text = text := by
  cases hopening : opening text with
  | quote quote =>
      obtain ⟨hquote, hhead⟩ := mem_of_opening_eq_quote hopening
      obtain ⟨rest, rfl⟩ := List.head?_eq_some_iff.mp hhead
      rw [stripLineComments_quote hquote, stripLineCommentsFrom_open hquote]
      rintro inside behind rfl hinside
      refine h (quote :: inside ++ [quote]) behind (by simp) ?_
      unfold IsPassage
      simp only [List.append_assoc, List.cons_append, List.nil_append, hopening]
      exact ⟨inside, rfl, hinside⟩
  | blockComment =>
      obtain ⟨rest, rfl⟩ := exists_of_opening_eq_blockComment hopening
      have hopen : ¬ closingMark <:+: rest := by
        intro hcloses
        obtain ⟨⟨inside, behind⟩, hsplit⟩ := Option.ne_none_iff_exists'.mp
          (mt (splitAtFirst?_eq_none (by simp [closingMark])).mp (not_not.mpr hcloses))
        obtain ⟨rfl, hinside⟩ := eq_append_of_splitAtFirst? (by simp [closingMark]) hsplit
        refine h (blockText inside) behind (by simp [blockText, openingMark]) ?_
        have htext : blockText inside ++ behind
            = '/' :: '*' :: (inside ++ closingMark ++ behind) := by
          simp [blockText, openingMark]
        unfold IsPassage
        rw [htext, hopening]
        exact ⟨inside, rfl, hinside⟩
      have hstrip := stripLineCommentsFrom_block hopen [] (by simp)
      rw [List.append_nil] at hstrip
      change '/' :: '*' :: stripLineCommentsFrom .block rest = _
      rw [hstrip]
      simp [stripLineCommentsFrom]
  | lineComment =>
      obtain ⟨passage, behind, htext, hpassage⟩ :=
        exists_isPassage_of_opensLineComment (opening_eq_lineComment.mp hopening)
      exact absurd hpassage (h passage behind htext)
  | plain =>
      cases text with
      | nil => rfl
      | cons c text =>
          refine absurd ?_ (h [c] text rfl)
          unfold IsPassage
          rw [List.singleton_append, hopening]
          rfl

end

/-! ## Lines -/

/-- What stands in front of a line of a text: the lines before it, each with its newline. -/
def lineFront (text : Text) (index : Nat) : Text :=
  ((lines text).take index).flatMap (· ++ ['\n'])

/-- A line cut where something starts. What starts is told by what stands in front of it. -/
structure CutsLine (starts : Text → Prop) (line rest : Text) : Prop where
  /-- A beginning of the line is kept. -/
  isPrefix : rest <+: line
  /-- The line is not cut but where something starts. -/
  starts_of_ne (hcut : rest ≠ line) : starts rest
  /-- Nothing that starts in the line is kept where it started. -/
  gone {front : Text} (hfront : front <+: line) (hstarts : starts front) : rest <+: front

/-- A text with as many newlines as before, each of whose lines is cut where something starts. -/
structure CutsLines (starts : Text → Prop) (text kept : Text) : Prop where
  count_eq : kept.count '\n' = text.count '\n'
  line {index : Nat} {line rest : Text} (hline : (lines text)[index]? = some line)
    (hrest : (lines kept)[index]? = some rest) :
    CutsLine (fun front => starts (lineFront text index ++ front)) line rest

section

variable {starts : Text → Prop} {text kept line rest : Text} {c : Char}

theorem CutsLine.nil : CutsLine starts [] [] where
  isPrefix := List.prefix_rfl
  starts_of_ne hcut := absurd rfl hcut
  gone _ _ := List.nil_prefix

theorem CutsLine.cons (h : CutsLine (fun front => starts (c :: front)) line rest)
    (hnot : ¬ starts []) : CutsLine starts (c :: line) (c :: rest) where
  isPrefix := (List.prefix_cons_inj c).mpr h.isPrefix
  starts_of_ne hcut := h.starts_of_ne fun heq => hcut (by rw [heq])
  gone {front} hfront hstarts := by
    rcases List.prefix_cons_iff.mp hfront with rfl | ⟨more, rfl, hmore⟩
    · exact absurd hstarts hnot
    · exact (List.prefix_cons_inj c).mpr (h.gone hmore hstarts)

theorem lines_newline_cons (text : Text) : lines ('\n' :: text) = [] :: lines text :=
  splitWhere_cons_of_pos rfl text

theorem lines_char_cons (hc : c ≠ '\n') (text : Text) :
    lines (c :: text) = (lines text).modifyHead (c :: ·) :=
  splitWhere_cons_of_neg (by simpa using hc) text

/-- Where nothing starts, nothing is cut. -/
theorem CutsLines.refl (h : ∀ front, ¬ starts front) : CutsLines starts text text where
  count_eq := rfl
  line {index line rest} hline hrest := by
    rw [hline] at hrest
    obtain rfl := Option.some.inj hrest
    exact ⟨List.prefix_rfl, fun hcut => absurd rfl hcut, fun _ hstarts => absurd hstarts (h _)⟩

/-- A character with which nothing starts may be put in front. -/
theorem CutsLines.cons (h : CutsLines (fun front => starts (c :: front)) text kept)
    (hnot : ¬ starts []) : CutsLines starts (c :: text) (c :: kept) where
  count_eq := by rw [List.count_cons, List.count_cons, h.count_eq]
  line {index line rest} hline hrest := by
    by_cases hc : c = '\n'
    · subst hc
      rw [lines_newline_cons] at hline hrest
      rw [lineFront, lines_newline_cons]
      cases index with
      | zero =>
          obtain ⟨rfl, rfl⟩ : [] = line ∧ [] = rest := ⟨by simpa using hline, by simpa using hrest⟩
          exact .nil
      | succ index => exact h.line hline hrest
    · obtain ⟨first, more, hlines⟩ :=
        List.exists_cons_of_ne_nil (splitWhere_ne_nil (· == '\n') text)
      obtain ⟨first', more', hlines'⟩ :=
        List.exists_cons_of_ne_nil (splitWhere_ne_nil (· == '\n') kept)
      rw [← lines] at hlines hlines'
      have hsame := @h.line index
      rw [lineFront, hlines, hlines'] at hsame
      rw [lines_char_cons hc, hlines] at hline
      rw [lines_char_cons hc, hlines'] at hrest
      rw [lineFront, lines_char_cons hc, hlines]
      cases index with
      | zero =>
          obtain ⟨rfl, rfl⟩ : c :: first = line ∧ c :: first' = rest :=
            ⟨by simpa using hline, by simpa using hrest⟩
          exact (hsame rfl rfl).cons hnot
      | succ index => exact hsame hline hrest

/-- So may a text inside of which nothing starts. -/
theorem CutsLines.append {front : Text}
    (h : CutsLines (fun more => starts (front ++ more)) text kept)
    (hnot : ∀ inside, inside <+: front → inside ≠ front → ¬ starts inside) :
    CutsLines starts (front ++ text) (front ++ kept) := by
  induction front generalizing starts with
  | nil => exact h
  | cons c front ih =>
      refine CutsLines.cons (ih h fun inside hinside hne => ?_) (hnot [] List.nil_prefix (by simp))
      exact hnot (c :: inside) ((List.prefix_cons_inj c).mpr hinside) (by simpa using hne)

/-- What starts in front of the end of a line may be cut from there on. -/
theorem CutsLines.cut {front : Text} (h : CutsLines (fun more => starts (front ++ more)) text kept)
    (hstarts : starts []) (hnewline : '\n' ∉ front) (htext : OpensLine text) :
    CutsLines starts (front ++ text) kept where
  count_eq := by rw [List.count_append, List.count_eq_zero.mpr hnewline, Nat.zero_add, h.count_eq]
  line {index line rest} hline hrest := by
    obtain ⟨more, hlines⟩ : ∃ more, lines text = [] :: more := by
      rcases htext with rfl | hhead
      · exact ⟨[], rfl⟩
      · obtain ⟨behind, rfl⟩ := List.head?_eq_some_iff.mp hhead
        exact ⟨_, lines_newline_cons behind⟩
    have hwhole : lines (front ++ text) = front :: more := by
      rw [lines_append_of_notMem hnewline, hlines, List.modifyHead_cons, List.append_nil]
    have hsame := @h.line index
    rw [lineFront, hlines] at hsame
    rw [hwhole] at hline
    rw [lineFront, hwhole]
    cases index with
    | zero =>
        obtain rfl : front = line := by simpa using hline
        obtain rfl : rest = [] := List.prefix_nil.mp (hsame rfl hrest).isPrefix
        exact ⟨List.nil_prefix, fun _ => hstarts, fun _ _ => List.nil_prefix⟩
    | succ index => simpa using hsame hline hrest

end

section

variable {passage behind text kept : Text}

/-- Behind a passage line comments begin where they begin in what follows. -/
theorem beginsLineComment_append (h : IsPassage passage behind) :
    (fun more => BeginsLineComment (passage ++ behind) (passage ++ more))
      = BeginsLineComment behind := by
  funext more
  simp [beginsLineComment_append_iff h, h.ne_nil]

theorem CutsLines.append_lineComment (h : CutsLines (BeginsLineComment behind) behind kept)
    (hpassage : IsPassage passage behind) (hopens : opensLineComment (passage ++ behind) = true) :
    CutsLines (BeginsLineComment (passage ++ behind)) (passage ++ behind) kept := by
  have hbegins : BeginsLineComment (passage ++ behind) [] :=
    (beginsLineComment_append_iff hpassage).mpr (.inl ⟨rfl, hopens⟩)
  rw [← beginsLineComment_append hpassage] at h
  unfold IsPassage at hpassage
  rw [opening_eq_lineComment.mpr hopens] at hpassage
  exact h.cut hbegins hpassage.1 hpassage.2

theorem CutsLines.append_passage (h : CutsLines (BeginsLineComment behind) behind kept)
    (hpassage : IsPassage passage behind) (hopens : opensLineComment (passage ++ behind) = false) :
    CutsLines (BeginsLineComment (passage ++ behind)) (passage ++ behind) (passage ++ kept) := by
  rw [← beginsLineComment_append hpassage] at h
  refine h.append fun inside hinside hne hbegins => ?_
  rcases (beginsLineComment_append_iff hpassage).mp hbegins with ⟨-, hcomment⟩ | ⟨more, rfl, -⟩
  · rw [hopens] at hcomment
    cases hcomment
  · exact hne (hinside.eq_of_length_le (by simp))

/-- Reading does not come to a line comment where it does not begin. -/
theorem not_beginsLineComment
    (h : ∀ passage behind, text = passage ++ behind → ¬ IsPassage passage behind) (front : Text) :
    ¬ BeginsLineComment text front := by
  rintro ⟨rest, rfl, hreaches, hopens⟩
  cases hreaches with
  | start =>
      obtain ⟨passage, behind, htext, hpassage⟩ := exists_isPassage_of_opensLineComment hopens
      exact h passage behind htext hpassage
  | passage hpassage _ => exact h _ _ (List.append_assoc ..) hpassage

end

/-- Stripping line comments keeps the line structure: there are as many newlines as before, and each
line is cut at the first line comment that begins in it, if there is any, and nowhere else. -/
theorem stripLineComments_cutsLines (text : Text) :
    CutsLines (BeginsLineComment text) text (stripLineComments text) := by
  induction hn : text.length using Nat.strong_induction_on generalizing text with
  | _ n ih =>
      by_cases hpassage : ∃ passage behind, text = passage ++ behind ∧ IsPassage passage behind
      · obtain ⟨passage, behind, rfl, hpassage⟩ := hpassage
        have hpositive := List.length_pos_of_ne_nil hpassage.ne_nil
        rw [List.length_append] at hn
        have hbehind := ih behind.length (by omega) behind rfl
        cases hopens : opensLineComment (passage ++ behind) with
        | true =>
            rw [stripLineComments_lineComment hpassage hopens]
            exact hbehind.append_lineComment hpassage hopens
        | false =>
            rw [stripLineComments_passage hpassage hopens]
            exact hbehind.append_passage hpassage hopens
      · have hnone : ∀ passage behind, text = passage ++ behind → ¬ IsPassage passage behind :=
          fun passage behind htext h => hpassage ⟨passage, behind, htext, h⟩
        rw [stripLineComments_of_not_isPassage hnone]
        exact .refl (not_beginsLineComment hnone)

example : stripLineComments "a '# -- ' # b\nc--d -- e\n/* # */ f".toList =
    "a '# -- ' \nc--d \n/* # */ f".toList := by
  decide

end SchemaMigration.Dump
