import SchemaMigration.Proofs.Dump.BlockComment

/-!
# Decoding part by part

A dump is decoded by passes over the whole of it, and each pass has its own idea of where quotes
and comments begin and end. A beginning of a dump is closed if each of them leaves nothing open
there: no backquote lacks its partner, the scanner for line comments stands outside literals and
block comments, and the block comments are in order. What is closed is decoded apart from what
follows it.

## Main Definitions

* `regionBehind` - where the scanner for line comments stands behind a text
* `bare` - the text of which line comments are stripped
* `IsClosed` - nothing is left open behind the text
* `decode_append` - what is closed is decoded apart from what follows it

## Design Notes

Where the scanner stands is told of the text with bare identifiers, because that is the text that
it reads: a quote in an identifier opens a literal there.
-/

namespace SchemaMigration.Dump

open Text

/-! ## Line comments -/

/-- The region in which a text ends that begins in the given region. -/
def regionBehind : Region → Text → Region
  | region, [] => region
  | .quoted quote, '\\' :: c :: text =>
    if quote = '\x60' then regionBehind (.quoted quote) (c :: text)
    else regionBehind (.quoted quote) text
  | .quoted quote, c :: text => regionBehind (if c = quote then .code else .quoted quote) text
  | .block, '*' :: '/' :: text => regionBehind .code text
  | .block, _ :: text => regionBehind .block text
  | .line, '\n' :: text => regionBehind .code text
  | .line, _ :: text => regionBehind .line text
  | .code, '/' :: '*' :: text => regionBehind .block text
  | .code, '#' :: text => regionBehind .line text
  | .code, '-' :: '-' :: text =>
    if opensDashComment text then regionBehind .line text else regionBehind .code ('-' :: text)
  | .code, c :: text => regionBehind (if isQuote c then .quoted c else .code) text

/-- Whether a text is read in a region as if nothing stood in front of it. -/
def Region.Precedes : Region → Text → Prop
  | .code, rest => rest.head? ≠ some '*' ∧ rest.head? ≠ some '-'
  | .line, rest => opensDashComment rest = true
  | _, _ => False

theorem opensDashComment_append {text rest : Text} (h : text = [] → opensDashComment rest = true) :
    opensDashComment (text ++ rest) = opensDashComment text := by
  cases text with
  | nil => exact h rfl
  | cons c text => rfl

/-- A text whose last character makes no mark of two characters with what follows. -/
def EndsPlain (text : Text) : Prop := ∀ c ∈ text.getLast?, c ∉ ['\\', '*', '/', '-']

theorem EndsPlain.tail {c : Char} {text : Text} (h : EndsPlain (c :: text)) : EndsPlain text := by
  intro d hd
  refine h d ?_
  rw [List.getLast?_cons, Option.mem_def.mp hd]
  rfl

/-- A mark of two characters that begins in a text is a mark in it, unless the text ends between
the two. -/
theorem not_mark_append {c first second : Char} {text rest : Text}
    (hwhole : ∀ behind, c = first → text = second :: behind → False)
    (hparted : c = first → text = [] → rest.head? ≠ some second) (behind : Text)
    (hc : c = first) (htext : text ++ rest = second :: behind) : False := by
  cases text with
  | nil => exact hparted hc rfl (by rw [← List.nil_append rest, htext, List.head?_cons])
  | cons d text =>
      obtain ⟨rfl, -⟩ := List.cons.inj htext
      exact hwhole text hc rfl

/-- A backslash opens no region. -/
theorem Region.opened_ne (c : Char) :
    (if isQuote c then Region.quoted c else .code) ≠ .quoted '\\' := by
  split
  · rename_i hc
    simp only [ne_eq, Region.quoted.injEq]
    rintro rfl
    exact absurd hc (by decide)
  · simp

theorem Region.closed_ne {quote : Char} (h : Region.quoted quote ≠ .quoted '\\') (c : Char) :
    (if c = quote then Region.code else .quoted quote) ≠ .quoted '\\' := by
  split
  · simp
  · exact h

/-- What follows is read in the region in which the text in front of it ends. Marks of two
characters are the reason why not everything may follow, unless the text ends plainly. -/
theorem stripLineCommentsFrom_append_of {region : Region} {front rest : Text}
    (hregion : region ≠ .quoted '\\')
    (h : (regionBehind region front).Precedes rest ∨ EndsPlain front) :
    stripLineCommentsFrom region (front ++ rest)
      = stripLineCommentsFrom region front
        ++ stripLineCommentsFrom (regionBehind region front) rest := by
  fun_induction regionBehind region front with
  | case1 region =>
    have hnil : stripLineCommentsFrom region [] = [] := by cases region <;> rfl
    rw [hnil]
    rfl
  | case2 c text ih =>
    simp only [List.cons_append] at ih ⊢
    rw [stripLineCommentsFrom, if_pos rfl, ih hregion (h.imp_right .tail), stripLineCommentsFrom,
      if_pos rfl]
    rfl
  | case3 quote c text hquote ih =>
    simp only [List.cons_append]
    rw [stripLineCommentsFrom, if_neg hquote, ih hregion (h.imp_right fun hends => hends.tail.tail),
      stripLineCommentsFrom, if_neg hquote]
    rfl
  | case4 quote c text hescape ih =>
    have hc : c ≠ '\\' := by
      rintro rfl
      cases text with
      | nil =>
        -- nothing may follow where a literal is open
        have hquote : '\\' ≠ quote := fun heq => hregion (heq ▸ rfl)
        rcases h with h | h
        · simp [hquote, regionBehind, Region.Precedes] at h
        · exact h '\\' rfl (by decide)
      | cons d text => exact hescape d text rfl rfl
    rw [List.cons_append, stripLineCommentsFrom, stripLineCommentsFrom,
      ih (Region.closed_ne hregion c) (h.imp_right .tail), List.cons_append] <;>
      exact fun _ _ heq => absurd heq hc
  | case6 c text hclose ih =>
    rw [List.cons_append, stripLineCommentsFrom, ih (by simp) (h.imp_right .tail),
      stripLineCommentsFrom, List.cons_append]
    · exact hclose
    · refine not_mark_append hclose ?_
      rintro rfl rfl
      rcases h with h | h
      · simp [regionBehind, Region.Precedes] at h
      · exact absurd (h '*' rfl) (by decide)
  | case8 c text hc ih =>
    simp only [List.cons_append]
    rw [stripLineCommentsFrom, ih (by simp) (h.imp_right .tail), stripLineCommentsFrom] <;> exact hc
  | case5 text ih | case9 text ih =>
    simp only [List.cons_append, stripLineCommentsFrom,
      ih (by simp) (h.imp_right fun hends => hends.tail.tail)]
  | case7 text ih | case10 text ih =>
    simp only [List.cons_append, stripLineCommentsFrom, ih (by simp) (h.imp_right .tail)]
  | case11 text hopens ih =>
    have hwhole : opensDashComment (text ++ rest) = true := by
      rw [opensDashComment_append, hopens]
      rintro rfl
      rcases h with h | h
      · exact h
      · exact absurd (h '-' rfl) (by decide)
    simp only [List.cons_append]
    rw [stripLineCommentsFrom, if_pos hwhole,
      ih (by simp) (h.imp_right fun hends => hends.tail.tail), stripLineCommentsFrom, if_pos hopens]
  | case12 text hopens ih =>
    have hwhole : ¬ opensDashComment (text ++ rest) = true := by
      rwa [opensDashComment_append]
      rintro rfl
      exact absurd rfl hopens
    simp only [List.cons_append] at ih ⊢
    rw [stripLineCommentsFrom, if_neg hwhole, ih (by simp) (h.imp_right .tail),
      stripLineCommentsFrom, if_neg hopens]
    rfl
  | case13 c text hblock hhash hdash ih =>
    rw [List.cons_append, stripLineCommentsFrom, ih (Region.opened_ne c) (h.imp_right .tail),
      stripLineCommentsFrom, List.cons_append]
    · exact hblock
    · exact hhash
    · exact hdash
    · refine not_mark_append hblock ?_
      rintro rfl rfl
      exact h.elim (·.1) fun hends => absurd (hends '/' rfl) (by decide)
    · exact hhash
    · refine not_mark_append hdash ?_
      rintro rfl rfl
      exact h.elim (·.2) fun hends => absurd (hends '-' rfl) (by decide)

theorem stripLineCommentsFrom_append {region : Region} {front rest : Text}
    (hregion : region ≠ .quoted '\\') (h : (regionBehind region front).Precedes rest) :
    stripLineCommentsFrom region (front ++ rest)
      = stripLineCommentsFrom region front
        ++ stripLineCommentsFrom (regionBehind region front) rest :=
  stripLineCommentsFrom_append_of hregion (.inl h)

/-! ## Newlines -/

/-- Newlines are unified apart, unless one is parted. -/
theorem unifyNewlines_append {front rest : Text}
    (h : front.getLast? = some '\r' → rest.head? ≠ some '\n') :
    unifyNewlines (front ++ rest) = unifyNewlines front ++ unifyNewlines rest := by
  fun_induction unifyNewlines front with
  | case1 text ih =>
    simp only [List.cons_append, unifyNewlines]
    rw [ih]
    intro hlast
    exact h (by simp [List.getLast?_cons, hlast])
  | case2 c text hbreak ih =>
    have hlast (htext : text.getLast? = some '\r') : rest.head? ≠ some '\n' :=
      h (by simp [List.getLast?_cons, htext])
    rw [List.cons_append, unifyNewlines, ih hlast, List.cons_append]
    -- the character makes no newline with what stands behind it
    refine not_mark_append hbreak ?_
    rintro rfl rfl
    exact h rfl
  | case3 => rfl

/-- Without a carriage return there is nothing to unify. -/
theorem unifyNewlines_append_of_notMem {front : Text} (h : '\r' ∉ front) (rest : Text) :
    unifyNewlines (front ++ rest) = front ++ unifyNewlines rest := by
  induction front with
  | nil => rfl
  | cons c front ih =>
      rw [List.mem_cons, not_or] at h
      rw [List.cons_append, unifyNewlines, ih h.2, List.cons_append]
      exact fun _ heq => absurd heq.symm h.1

/-- Nothing is in a text with unified newlines that was not in it before. -/
theorem mem_of_mem_unifyNewlines {c : Char} {text : Text} (h : c ∈ unifyNewlines text) :
    c ∈ text := by
  fun_induction unifyNewlines text with
  | case1 text ih =>
    rcases List.mem_cons.mp h with rfl | h
    · simp
    · simp [ih h]
  | case2 d text _ ih => exact List.mem_cons.mpr ((List.mem_cons.mp h).imp_right ih)
  | case3 => exact h

/-! ## Identifiers in quotes -/

/-- The text of which line comments are stripped: its identifiers are bare, unless their quotes
are kept. -/
def bare (keepQuotes : Bool) (text : Text) : Text :=
  if keepQuotes then text else stripIdentifierQuotes text

/-- Every backquote has its partner, unless they are kept. -/
def IsPaired (keepQuotes : Bool) (text : Text) : Prop :=
  '\x60' ∉ stripIdentifierQuotes text ∨ keepQuotes = true

theorem quotedIdentifier?_cons {c : Char} (hc : c ≠ '\x60') (text : Text) :
    quotedIdentifier? (c :: text) = none := by
  unfold quotedIdentifier?
  split
  · rename_i htext
    exact absurd (List.cons.inj htext).1 hc
  · rfl

/-- An identifier in quotes is read up to the next quote. -/
theorem quotedIdentifier?_eq_some {text identifier rest : Text} :
    quotedIdentifier? text = some (identifier, rest) ↔
      text = '\x60' :: identifier ++ '\x60' :: rest ∧ identifier ≠ [] ∧ '\x60' ∉ identifier := by
  constructor
  · intro h
    unfold quotedIdentifier? at h
    split at h
    · rename_i text
      have hsplit := List.takeWhile_append_dropWhile (p := (· != '\x60')) (l := text)
      have hinside : '\x60' ∉ text.takeWhile (· != '\x60') :=
        fun hmem => by simpa using List.mem_takeWhile_imp hmem
      have hhead := List.head_dropWhile_not (· != '\x60') (l := text)
      split at h
      · cases h
      · cases h
      · rename_i close behind hdrop hne
        obtain ⟨rfl, rfl⟩ := Prod.mk.inj (Option.some.inj h)
        obtain rfl : close = '\x60' := by simpa [hdrop] using hhead
        refine ⟨?_, hne, hinside⟩
        rw [List.cons_append, ← hdrop, hsplit]
    · cases h
  · rintro ⟨rfl, hne, hinside⟩
    have hall : ∀ c ∈ identifier, (c != '\x60') = true := by
      intro c hc
      simp only [bne_iff_ne]
      rintro rfl
      exact hinside hc
    have htake : (identifier ++ '\x60' :: rest).takeWhile (· != '\x60') = identifier := by
      simp [List.takeWhile_append_of_pos hall]
    have hdrop : (identifier ++ '\x60' :: rest).dropWhile (· != '\x60') = '\x60' :: rest := by
      simp [List.dropWhile_append_of_pos hall]
    obtain ⟨first, identifier, rfl⟩ := List.exists_cons_of_ne_nil hne
    simp only [List.cons_append] at htake hdrop
    simp [quotedIdentifier?, htake, hdrop]

/-- Where no identifier is read, a character stays. -/
theorem stripIdentifierQuotes_of_none {c : Char} {text : Text}
    (h : quotedIdentifier? (c :: text) = none) :
    stripIdentifierQuotes (c :: text) = c :: stripIdentifierQuotes text :=
  replaceMatches_cons h

theorem stripIdentifierQuotes_cons {c : Char} (hc : c ≠ '\x60') (text : Text) :
    stripIdentifierQuotes (c :: text) = c :: stripIdentifierQuotes text :=
  stripIdentifierQuotes_of_none (quotedIdentifier?_cons hc text)

/-- An identifier in quotes comes out bare. -/
theorem stripIdentifierQuotes_quoted {identifier : Text} (hne : identifier ≠ [])
    (hinside : '\x60' ∉ identifier) (rest : Text) :
    stripIdentifierQuotes ('\x60' :: identifier ++ '\x60' :: rest)
      = identifier ++ stripIdentifierQuotes rest := by
  refine replaceMatches_of_some (quotedIdentifier?_eq_some.mpr ⟨rfl, hne, hinside⟩) ?_
  exact ⟨identifier ++ ['\x60'], by simp⟩

/-- A text is read identifier by identifier, and character by character between them. -/
theorem identifiers_induction {motive : Text → Prop} (nil : motive [])
    (char : ∀ c text, quotedIdentifier? (c :: text) = none → motive text → motive (c :: text))
    (quoted : ∀ identifier rest, identifier ≠ [] → '\x60' ∉ identifier → motive rest →
      motive ('\x60' :: identifier ++ '\x60' :: rest)) (text : Text) : motive text := by
  induction hn : text.length using Nat.strong_induction_on generalizing text with
  | _ n ih =>
      cases text with
      | nil => exact nil
      | cons c text =>
          cases hread : quotedIdentifier? (c :: text) with
          | none => exact char c text hread (ih _ (by simp [← hn]) text rfl)
          | some found =>
              obtain ⟨identifier, rest⟩ := found
              obtain ⟨htext, hne, hinside⟩ := quotedIdentifier?_eq_some.mp hread
              have hlength := congrArg List.length htext
              simp only [List.length_append, List.length_cons] at hlength hn
              rw [htext]
              exact quoted identifier rest hne hinside (ih rest.length (by omega) rest rfl)

/-- Without a backquote left, no backquote waits for its partner. -/
theorem stripIdentifierQuotes_append {front : Text} (h : '\x60' ∉ stripIdentifierQuotes front)
    (rest : Text) : stripIdentifierQuotes (front ++ rest)
      = stripIdentifierQuotes front ++ stripIdentifierQuotes rest := by
  induction front using identifiers_induction with
  | nil => rfl
  | char c front hread ih =>
      rw [stripIdentifierQuotes_of_none hread, List.mem_cons, not_or] at h
      rw [stripIdentifierQuotes_of_none hread, List.cons_append,
        stripIdentifierQuotes_cons (Ne.symm h.1), ih h.2, List.cons_append]
  | quoted identifier behind hne hinside ih =>
      rw [stripIdentifierQuotes_quoted hne hinside, List.mem_append, not_or] at h
      have hwhole := stripIdentifierQuotes_quoted hne hinside (behind ++ rest)
      rw [ih h.2] at hwhole
      rw [stripIdentifierQuotes_quoted hne hinside, List.append_assoc identifier, ← hwhole]
      simp only [List.cons_append, List.append_assoc]

/-- Without a backquote in what follows, none waits for it. -/
theorem stripIdentifierQuotes_append_of_notMem (front : Text) {rest : Text} (h : '\x60' ∉ rest) :
    stripIdentifierQuotes (front ++ rest)
      = stripIdentifierQuotes front ++ stripIdentifierQuotes rest := by
  induction front using identifiers_induction with
  | nil => rfl
  | char c front hread ih =>
      have hwhole : quotedIdentifier? (c :: (front ++ rest)) = none := by
        refine Option.eq_none_iff_forall_ne_some.mpr fun (identifier, behind) hsome => ?_
        obtain ⟨heq, hne, hinside⟩ := quotedIdentifier?_eq_some.mp hsome
        -- the quote that ends the identifier is in front already
        rw [← List.cons_append] at heq
        obtain ⟨more, -, hrest⟩ | ⟨more, hfront, hrest⟩ := List.append_eq_append_iff.mp heq
        · exact h (by simp [hrest])
        · cases more with
          | nil => exact h (by simp [← show '\x60' :: behind = rest from hrest])
          | cons d more =>
              obtain ⟨rfl, -⟩ := List.cons.inj hrest
              have hfound := quotedIdentifier?_eq_some.mpr ⟨hfront, hne, hinside⟩
              rw [hread] at hfound
              cases hfound
      rw [stripIdentifierQuotes_of_none hread, List.cons_append,
        stripIdentifierQuotes_of_none hwhole, ih, List.cons_append]
  | quoted identifier behind hne hinside ih =>
      have hwhole := stripIdentifierQuotes_quoted hne hinside (behind ++ rest)
      rw [ih] at hwhole
      rw [stripIdentifierQuotes_quoted hne hinside, List.append_assoc identifier, ← hwhole]
      simp only [List.cons_append, List.append_assoc]

/-- Nothing is in a bare text that was not in it before. -/
theorem mem_of_mem_stripIdentifierQuotes {c : Char} {text : Text}
    (h : c ∈ stripIdentifierQuotes text) : c ∈ text := by
  induction text using identifiers_induction with
  | nil => exact h
  | char d text hread ih =>
      rw [stripIdentifierQuotes_of_none hread, List.mem_cons] at h
      exact List.mem_cons.mpr (h.imp_right ih)
  | quoted identifier rest hne hinside ih =>
      rw [stripIdentifierQuotes_quoted hne hinside, List.mem_append] at h
      rcases h with h | h
      · simp [h]
      · simp [ih h]

theorem bare_append {keepQuotes : Bool} {front : Text} (h : IsPaired keepQuotes front)
    (rest : Text) :
    bare keepQuotes (front ++ rest) = bare keepQuotes front ++ bare keepQuotes rest := by
  cases keepQuotes with
  | true => rfl
  | false => exact stripIdentifierQuotes_append (by simpa [IsPaired] using h) rest

theorem bare_cons {c : Char} (hc : c ≠ '\x60') (keepQuotes : Bool) (text : Text) :
    bare keepQuotes (c :: text) = c :: bare keepQuotes text := by
  cases keepQuotes with
  | true => rfl
  | false => exact stripIdentifierQuotes_cons hc text

/-- A text without backquotes is bare. -/
theorem bare_eq_self {keepQuotes : Bool} {text : Text} (h : '\x60' ∉ text ∨ keepQuotes = true) :
    bare keepQuotes text = text := by
  rcases h with h | rfl
  · induction text with
    | nil => cases keepQuotes <;> rfl
    | cons c text ih =>
        rw [List.mem_cons, not_or] at h
        rw [bare_cons (Ne.symm h.1), ih h.2]
  · rfl

/-- A text without backquotes is paired. -/
theorem isPaired_of_notMem {keepQuotes : Bool} {text : Text}
    (h : '\x60' ∉ text ∨ keepQuotes = true) : IsPaired keepQuotes text := by
  rcases h with h | rfl
  · have hbare : bare false text = text := bare_eq_self (.inl h)
    exact .inl (show '\x60' ∉ bare false text from hbare.symm ▸ h)
  · exact .inr rfl

/-- Characters that are no backquotes stay in front of a text. -/
theorem bare_append_of_notMem {front : Text} (h : '\x60' ∉ front) (keepQuotes : Bool)
    (rest : Text) : bare keepQuotes (front ++ rest) = front ++ bare keepQuotes rest := by
  rw [bare_append (isPaired_of_notMem (.inl h)), bare_eq_self (.inl h)]

theorem IsPaired.append_left {keepQuotes : Bool} {front text : Text} (h : IsPaired keepQuotes text)
    (hfront : '\x60' ∉ front) : IsPaired keepQuotes (front ++ text) := by
  refine h.imp_left fun htext => ?_
  have hbare : stripIdentifierQuotes (front ++ text) = front ++ stripIdentifierQuotes text :=
    bare_append_of_notMem hfront false text
  rw [hbare, List.mem_append, not_or]
  exact ⟨hfront, htext⟩

theorem mem_of_mem_bare {keepQuotes : Bool} {c : Char} {text : Text}
    (h : c ∈ bare keepQuotes text) : c ∈ text := by
  cases keepQuotes with
  | true => exact h
  | false => exact mem_of_mem_stripIdentifierQuotes h

/-! ## What may follow -/

/-- What may follow a text that ends in the given region: a new line, or a literal in code. -/
def Region.IsFollowedBy (region : Region) (c : Char) : Prop :=
  c = '\n' ∧ (region = .code ∨ region = .line) ∨ region = .code ∧ (c = '\x27' ∨ c = '\x22')

theorem Region.IsFollowedBy.ne {region : Region} {c : Char} (h : region.IsFollowedBy c) :
    c ≠ '\x60' ∧ c ≠ '\r' ∧ c ≠ '*' ∧ c ≠ '-' ∧ c ≠ '/' ∧ c ≠ '#' ∧ isCommentTail c = false := by
  rcases h with ⟨rfl, -⟩ | ⟨-, rfl | rfl⟩ <;> decide

/-- A character that opens no comment stays. -/
theorem stripLineComments_cons {c : Char} (hslash : c ≠ '/') (hhash : c ≠ '#') (hhyphen : c ≠ '-')
    (text : Text) : stripLineComments (c :: text)
      = c :: stripLineCommentsFrom (if isQuote c then .quoted c else .code) text := by
  rw [stripLineComments, stripLineCommentsFrom]
  · exact fun _ heq => absurd heq hslash
  · exact hhash
  · exact fun _ heq => absurd heq hhyphen

/-- Line comments are stripped apart from a new line, and from a literal that follows code. -/
theorem stripLineComments_append {front : Text} {c : Char}
    (h : (regionBehind .code front).IsFollowedBy c) (rest : Text) :
    stripLineComments (front ++ c :: rest)
      = stripLineComments front ++ stripLineComments (c :: rest) := by
  obtain ⟨-, -, hstar, hhyphen, -⟩ := h.ne
  have hprecedes : (regionBehind .code front).Precedes (c :: rest) := by
    rcases h with ⟨rfl, hregion | hregion⟩ | ⟨hregion, -⟩ <;> rw [hregion]
    · exact ⟨by simp, by simp⟩
    · rfl
    · exact ⟨by simpa using hstar, by simpa using hhyphen⟩
  -- a new line ends a line comment, and is read in code as well
  have hregion : stripLineCommentsFrom (regionBehind .code front) (c :: rest)
      = stripLineComments (c :: rest) := by
    rcases h with ⟨rfl, hregion | hregion⟩ | ⟨hregion, -⟩ <;> rw [hregion] <;> rfl
  rw [stripLineComments, stripLineCommentsFrom_append (by simp) hprecedes, hregion]
  rfl

/-! ## All passes -/

theorem decode_eq (keepQuotes : Bool) (raw : Text) : decode keepQuotes raw
    = openBlockComments (stripLineComments (bare keepQuotes (unifyNewlines raw))) := by
  rw [decode, settingComment?_eq, executableComment?_eq, blockComment?_eq]
  rfl

/-- The region in which the beginning of a dump ends for the scanner for line comments. -/
def endRegion (keepQuotes : Bool) (text : Text) : Region :=
  regionBehind .code (bare keepQuotes (unifyNewlines text))

/-- No backquote lacks its partner behind the text, and the block comments are in order. -/
structure IsClosed (keepQuotes : Bool) (text : Text) : Prop where
  isPaired : IsPaired keepQuotes (unifyNewlines text)
  isOrderly : IsOrderly (stripLineComments (bare keepQuotes (unifyNewlines text)))

/-- What is closed is decoded apart from what may follow where it ends. -/
theorem decode_append {keepQuotes : Bool} {front : Text} {c : Char} (h : IsClosed keepQuotes front)
    (hbreak : c = '\n' → front.getLast? ≠ some '\r')
    (hc : (endRegion keepQuotes front).IsFollowedBy c) (rest : Text) :
    decode keepQuotes (front ++ c :: rest)
      = decode keepQuotes front ++ decode keepQuotes (c :: rest) := by
  obtain ⟨hquote, hreturn, hstar, hhyphen, hslash, hhash, htail⟩ := hc.ne
  have hunify : unifyNewlines (front ++ c :: rest)
      = unifyNewlines front ++ unifyNewlines (c :: rest) :=
    unifyNewlines_append fun hlast hhead => hbreak (by simpa using hhead) hlast
  have hcons : unifyNewlines (c :: rest) = c :: unifyNewlines rest := by
    rw [unifyNewlines]
    exact fun _ heq => absurd heq hreturn
  have hfence : IsFence (stripLineComments (c :: bare keepQuotes (unifyNewlines rest))) := by
    rw [stripLineComments_cons hslash hhash hhyphen, isFence_cons]
    exact ⟨htail, hstar, hslash⟩
  rw [decode_eq, decode_eq, decode_eq, hunify, bare_append h.isPaired, hcons, bare_cons hquote,
    stripLineComments_append hc, openBlockComments_append h.isOrderly hfence]

end SchemaMigration.Dump
