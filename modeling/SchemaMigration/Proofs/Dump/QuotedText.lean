import SchemaMigration.Proofs.Dump.Decoding

/-!
# Quoted text in a dump

What a literal holds is read by three passes that take no notice of literals: newlines are
unified, backquotes are taken for those of identifiers, and block comments are opened. So a
literal comes out as it stands just if none of them finds anything in it. Identifiers are made
bare before line comments are stripped; from then on they are read like anything else.

## Main Definitions

* `IsLiteral` - a literal in single or double quotes
* `IsUnmarked` - no pass finds anything in the literal
* `ClosesItself` - what the passes find in a literal ends in it
* `IsPlainIdentifier` - an identifier that is read like one without its quotes as well
* `decode_quotedText` - what becomes of literals and of identifiers in quotes
-/

namespace SchemaMigration.Dump

open Text

/-- Whether a text is the inside of a literal: the quote does not occur in it, unless a backslash
stands in front. -/
def isLiteralBody (quote : Char) : Text → Bool
  | [] => true
  | '\\' :: _ :: text => isLiteralBody quote text
  | c :: text => c != quote && c != '\\' && isLiteralBody quote text

/-- A literal in single or double quotes. -/
def IsLiteral (text : Text) : Prop :=
  ∃ quote inside, (quote = '\x27' ∨ quote = '\x22') ∧ isLiteralBody quote inside = true ∧
    text = quote :: inside ++ [quote]

/-- No pass finds anything in a literal. -/
structure IsUnmarked (keepQuotes : Bool) (literal : Text) : Prop where
  newline : ¬ ['\r', '\n'] <:+: literal
  backquote : '\x60' ∉ literal ∨ keepQuotes = true
  comment : ¬ openingMark <:+: literal

/-- What the passes find in a literal ends in it. -/
structure ClosesItself (keepQuotes : Bool) (literal : Text) : Prop where
  isPaired : IsPaired keepQuotes (unifyNewlines literal)
  isLiteral : IsLiteral (bare keepQuotes (unifyNewlines literal))
  isOrderly : IsOrderly (bare keepQuotes (unifyNewlines literal))

/-- An identifier that is read like one without its quotes as well. -/
structure IsPlainIdentifier (identifier : Text) : Prop where
  ne_nil : identifier ≠ []
  plain : ∀ c ∈ identifier, isQuote c = false ∧ c ≠ '#' ∧ c ≠ '\r' ∧ c ≠ '\n'
  hyphen : ¬ ['-', '-'] <:+: identifier
  comment : ¬ openingMark <:+: identifier
  first : ∀ c ∈ identifier.head?, isCommentTail c = false ∧ c ≠ '*' ∧ c ≠ '/' ∧ c ≠ '-'
  last : ∀ c ∈ identifier.getLast?, c ≠ '/' ∧ c ≠ '-'

/-! ## Passes that find nothing -/

theorem shortens_unifyNewlines : Shortens unifyNewlines := by
  intro text
  fun_induction unifyNewlines text with
  | case1 text ih =>
    have hlength : (unifyNewlines text).length ≤ text.length := by
      rcases ih with heq | hless
      · rw [heq]
      · exact hless.le
    refine .inr ?_
    simp only [List.length_cons]
    omega
  | case2 c text _ ih => simpa using ih
  | case3 => exact .inl rfl

/-- Unifying newlines changes nothing just if there is no newline of two characters. -/
theorem unifyNewlines_eq_self_iff {text : Text} :
    unifyNewlines text = text ↔ ¬ ['\r', '\n'] <:+: text := by
  fun_induction unifyNewlines text with
  | case1 text ih =>
    have hlength := shortens_unifyNewlines.length_le text
    have hchanged : '\n' :: unifyNewlines text ≠ '\r' :: '\n' :: text := by simp
    have hmark : ['\r', '\n'] <:+: '\r' :: '\n' :: text := ⟨[], text, rfl⟩
    simp [hchanged, hmark]
  | case2 c text hbreak ih =>
    have hbegins : ¬ ['\r', '\n'] <+: c :: text := by
      rintro ⟨rest, hrest⟩
      obtain ⟨rfl, htext⟩ := List.cons.inj hrest
      exact hbreak rest rfl htext.symm
    rw [List.infix_cons_iff, not_or, ← ih]
    simp [hbegins]
  | case3 => simp

theorem shortens_bare (keepQuotes : Bool) : Shortens (bare keepQuotes) := by
  cases keepQuotes with
  | true => exact fun _ => .inl rfl
  | false =>
      refine shortens_replaceMatches fun text identifier rest hread => ?_
      obtain ⟨rfl, -, -⟩ := quotedIdentifier?_eq_some.mp hread
      refine ⟨⟨identifier ++ ['\x60'], by simp⟩, ?_⟩
      simp only [List.length_append, List.length_cons]
      omega

/-! ## Literals -/

theorem stripLineCommentsFrom_literalBody {quote : Char} (hquote : quote = '\x27' ∨ quote = '\x22')
    {inside : Text} (h : isLiteralBody quote inside = true) (rest : Text) :
    stripLineCommentsFrom (.quoted quote) (inside ++ quote :: rest)
      = inside ++ quote :: stripLineCommentsFrom .code rest := by
  fun_induction isLiteralBody quote inside with
  | case1 => rcases hquote with rfl | rfl <;> rfl
  | case2 c text ih =>
    have hbackquote : quote ≠ '\x60' := by rcases hquote with rfl | rfl <;> decide
    simp only [List.cons_append]
    rw [stripLineCommentsFrom, if_neg hbackquote, ih h]
  | case3 c text _ ih =>
    simp only [Bool.and_eq_true, bne_iff_ne, ne_eq] at h
    obtain ⟨⟨hc, hescape⟩, hbody⟩ := h
    rw [List.cons_append, stripLineCommentsFrom, if_neg hc, ih hbody, List.cons_append]
    exact fun _ _ heq => absurd heq hescape

/-- Nothing in a literal is taken for a line comment. -/
theorem stripLineComments_literal {literal : Text} (h : IsLiteral literal) (rest : Text) :
    stripLineComments (literal ++ rest) = literal ++ stripLineComments rest := by
  obtain ⟨quote, inside, hquote, hbody, rfl⟩ := h
  have hinside := stripLineCommentsFrom_literalBody hquote hbody rest
  rw [List.append_assoc, List.singleton_append, List.cons_append]
  rcases hquote with rfl | rfl <;>
  · rw [stripLineComments_cons (by decide) (by decide) (by decide), if_pos (by decide), hinside]
    simp [stripLineComments]

/-- A literal begins and ends with a quote. -/
theorem IsLiteral.ends {literal : Text} (h : IsLiteral literal) :
    ∃ quote inside, (quote = '\x27' ∨ quote = '\x22') ∧ literal = quote :: inside ++ [quote] := by
  obtain ⟨quote, inside, hquote, -, heq⟩ := h
  exact ⟨quote, inside, hquote, heq⟩

/-- Where texts of one kind do not go on behind a mark, the one in front of the mark is told by the
whole. -/
theorem eq_of_append_cons (kind : Text → Prop) {mark : Char} {text other back back' : Text}
    (hends : ∀ {text}, kind text → ∀ more, ¬ kind (text ++ mark :: more)) (h : kind text)
    (hother : kind other) (heq : text ++ mark :: back = other ++ mark :: back') : text = other := by
  -- otherwise the longer one would go on behind the mark
  rcases List.append_eq_append_iff.mp heq with ⟨more, rfl, hrest⟩ | ⟨more, rfl, hrest⟩
  · cases more with
    | nil => exact (List.append_nil text).symm
    | cons c more =>
        obtain ⟨rfl, -⟩ := List.cons.inj hrest
        exact absurd hother (hends h more)
  · cases more with
    | nil => exact List.append_nil other
    | cons c more =>
        obtain ⟨rfl, -⟩ := List.cons.inj hrest
        exact absurd h (hends hother more)

/-- A literal does not go on behind the quote that ends it. -/
theorem isLiteralBody_append_quote {quote : Char} (hquote : quote ≠ '\\') {inside : Text}
    (h : isLiteralBody quote inside = true) (back : Text) :
    isLiteralBody quote (inside ++ quote :: back) = false := by
  fun_induction isLiteralBody quote inside with
  | case1 =>
    rw [List.nil_append, isLiteralBody]
    · simp
    · exact fun _ _ heq => absurd heq hquote
  | case2 c inside ih =>
    simp only [List.cons_append]
    rw [isLiteralBody, ih h]
  | case3 c inside _ ih =>
    simp only [Bool.and_eq_true, bne_iff_ne, ne_eq] at h
    obtain ⟨⟨-, hescape⟩, hbody⟩ := h
    rw [List.cons_append, isLiteralBody, ih hbody, Bool.and_false]
    exact fun _ _ heq => absurd heq hescape

/-- A text begins with one literal at most. -/
theorem IsLiteral.unique {literal other rest rest' : Text} (h : IsLiteral literal)
    (hother : IsLiteral other) (heq : literal ++ rest = other ++ rest') : literal = other := by
  obtain ⟨quote, inside, hquote, hbody, rfl⟩ := h
  obtain ⟨quote', inside', -, hbody', rfl⟩ := hother
  simp only [List.cons_append, List.append_assoc, List.nil_append, List.cons.injEq] at heq
  obtain ⟨rfl, hbehind⟩ := heq
  have hslash : quote ≠ '\\' := by rcases hquote with rfl | rfl <;> decide
  have hends {text : Text} (h : isLiteralBody quote text = true) (more : Text) :
      ¬ isLiteralBody quote (text ++ quote :: more) = true := by
    simp [isLiteralBody_append_quote hslash h]
  rw [eq_of_append_cons (isLiteralBody quote · = true) hends hbody hbody' hbehind]

/-- An orderly literal is decoded apart from anything that follows it: its last quote keeps what
follows from its comments. -/
theorem openBlockComments_append_literal {literal : Text} (h : IsLiteral literal)
    (horderly : IsOrderly literal) (rest : Text) :
    openBlockComments (literal ++ rest) = openBlockComments literal ++ openBlockComments rest := by
  obtain ⟨quote, inside, hquote, rfl⟩ := h.ends
  have hslash : quote ≠ '/' := by rcases hquote with rfl | rfl <;> decide
  have hfence (text : Text) : IsFence (quote :: text) := by
    rw [isFence_cons]
    rcases hquote with rfl | rfl <;> decide
  have hinside := horderly.of_concat hslash
  rw [openBlockComments_append hinside (hfence []), List.append_assoc, List.singleton_append,
    openBlockComments_append hinside (hfence rest), openBlockComments_cons hslash rest,
    openBlockComments_cons hslash [], List.append_assoc]
  rfl

theorem decode_literal {keepQuotes : Bool} {literal : Text} (h : ClosesItself keepQuotes literal) :
    decode keepQuotes literal = openBlockComments (bare keepQuotes (unifyNewlines literal)) := by
  have hline := stripLineComments_literal h.isLiteral []
  rw [List.append_nil, show stripLineComments [] = [] from rfl, List.append_nil] at hline
  rw [decode_eq, hline]

/-- A literal that closes itself is decoded apart from what follows it. -/
theorem decode_literal_append {keepQuotes : Bool} {literal : Text} (hliteral : IsLiteral literal)
    (h : ClosesItself keepQuotes literal) (rest : Text) :
    decode keepQuotes (literal ++ rest) = decode keepQuotes literal ++ decode keepQuotes rest := by
  have hbreak : literal.getLast? ≠ some '\r' := by
    obtain ⟨quote, inside, hquote, rfl⟩ := hliteral.ends
    rw [List.getLast?_append]
    rcases hquote with rfl | rfl <;> simp
  rw [decode_literal h, decode_eq, decode_eq, unifyNewlines_append fun hlast => absurd hlast hbreak,
    bare_append h.isPaired, stripLineComments_literal h.isLiteral,
    openBlockComments_append_literal h.isLiteral h.isOrderly]

/-- A literal in which no pass finds anything closes itself. -/
theorem IsUnmarked.closesItself {keepQuotes : Bool} {literal : Text} (hliteral : IsLiteral literal)
    (h : IsUnmarked keepQuotes literal) : ClosesItself keepQuotes literal := by
  have hunify := unifyNewlines_eq_self_iff.mpr h.newline
  have hbare := bare_eq_self h.backquote
  refine ⟨?_, ?_, ?_⟩ <;> rw [hunify]
  · exact isPaired_of_notMem h.backquote
  · rwa [hbare]
  · rw [hbare]
    exact isOrderly_of_not_isInfix h.comment

/-- A literal comes out as it stands just if no pass finds anything in it. -/
theorem decode_literal_eq_self_iff {keepQuotes : Bool} {literal : Text}
    (h : ClosesItself keepQuotes literal) :
    decode keepQuotes literal = literal ↔ IsUnmarked keepQuotes literal := by
  rw [decode_literal h]
  constructor
  · intro heq
    -- no pass makes a text longer, so each of them leaves the literal as it is
    obtain ⟨hnewline, hrest⟩ := shortens_unifyNewlines.eq_of_comp
      (shortens_openBlockComments.comp (shortens_bare keepQuotes)) heq
    obtain ⟨hbare, hblock⟩ :=
      (shortens_bare keepQuotes).eq_of_comp shortens_openBlockComments hrest
    have hpaired := h.isPaired
    have horderly := h.isOrderly
    rw [hnewline] at hpaired horderly
    rw [hbare] at horderly
    refine ⟨unifyNewlines_eq_self_iff.mp hnewline, ?_,
      (openBlockComments_eq_self_iff horderly).mp hblock⟩
    cases keepQuotes with
    | true => exact .inr rfl
    | false =>
        refine .inl ?_
        have hstrip : stripIdentifierQuotes literal = literal := hbare
        rw [← hstrip]
        exact hpaired.resolve_right (by simp)
  · intro hmarks
    rw [unifyNewlines_eq_self_iff.mpr hmarks.newline, bare_eq_self hmarks.backquote,
      openBlockComments_of_not_isInfix hmarks.comment]

/-! ## Identifiers -/

section

variable {identifier : Text} (hne : identifier ≠ [])
  (hinside : ∀ c ∈ identifier, c ≠ '\x60' ∧ c ≠ '\r' ∧ c ≠ '\n')

include hinside

theorem unifyNewlines_identifier : unifyNewlines identifier = identifier := by
  refine unifyNewlines_eq_self_iff.mpr fun hoccurs => ?_
  exact (hinside '\r' (hoccurs.mem (by simp))).2.1 rfl

include hne

/-- Behind the first two passes a backquoted identifier is bare. -/
theorem decode_quotedIdentifier_eq {front : Text} (hfront : IsPaired false (unifyNewlines front))
    (behind : Text) : decode false (front ++ '\x60' :: identifier ++ '\x60' :: behind)
      = openBlockComments (stripLineComments (bare false (unifyNewlines front) ++
          (identifier ++ bare false (unifyNewlines behind)))) := by
  have hquote (text : Text) : unifyNewlines ('\x60' :: text) = '\x60' :: unifyNewlines text := by
    rw [unifyNewlines]
    exact fun _ heq => absurd heq (by decide)
  have hbackquote : '\x60' ∉ identifier := fun hmem => (hinside _ hmem).1 rfl
  have hbare : bare false ('\x60' :: identifier ++ '\x60' :: unifyNewlines behind)
      = identifier ++ bare false (unifyNewlines behind) :=
    stripIdentifierQuotes_quoted hne hbackquote _
  rw [decode_eq, List.append_assoc, unifyNewlines_append (by simp), List.cons_append, hquote,
    unifyNewlines_append (by simp), hquote, unifyNewlines_identifier hinside, bare_append hfront,
    ← List.cons_append, hbare]

/-- A backquoted identifier without line breaks is decoded as if it had no quotes. -/
theorem decode_quotedIdentifier {front : Text} (hfront : IsPaired false (unifyNewlines front))
    (behind : Text) : decode false (front ++ '\x60' :: identifier ++ '\x60' :: behind)
      = decode false (front ++ identifier ++ behind) := by
  have hbackquote : '\x60' ∉ identifier := fun hmem => (hinside _ hmem).1 rfl
  have hhead : identifier.head? ≠ some '\n' :=
    fun hc => (hinside _ (List.mem_of_mem_head? hc)).2.2 rfl
  have hlast : identifier.getLast? ≠ some '\r' :=
    fun hc => (hinside _ (List.mem_of_mem_getLast? hc)).2.1 rfl
  have hunify : unifyNewlines (front ++ (identifier ++ behind))
      = unifyNewlines front ++ (identifier ++ unifyNewlines behind) := by
    rw [unifyNewlines_append, unifyNewlines_append fun hc => absurd hc hlast,
      unifyNewlines_identifier hinside]
    rw [List.head?_append_of_ne_nil _ hne]
    exact fun _ => hhead
  have hbare : bare false (identifier ++ unifyNewlines behind)
      = identifier ++ bare false (unifyNewlines behind) := by
    rw [bare_append (isPaired_of_notMem (.inl hbackquote)), bare_eq_self (.inl hbackquote)]
  rw [decode_quotedIdentifier_eq hne hinside hfront, decode_eq, List.append_assoc, hunify,
    bare_append hfront, hbare]

end

/-- A text without quotes and marks of line comments stays in code. -/
theorem stripLineComments_append_of_plain {text : Text}
    (hplain : ∀ c ∈ text, isQuote c = false ∧ c ≠ '#') (hhyphen : ¬ ['-', '-'] <:+: text)
    (hcomment : ¬ openingMark <:+: text) (hlast : ∀ c ∈ text.getLast?, c ≠ '/' ∧ c ≠ '-')
    (rest : Text) : stripLineComments (text ++ rest) = text ++ stripLineComments rest := by
  induction text with
  | nil => rfl
  | cons c text ih =>
      rw [List.infix_cons_iff, not_or] at hhyphen hcomment
      obtain ⟨hquote, hhash⟩ := hplain c (by simp)
      have hlastRest : ∀ d ∈ text.getLast?, d ≠ '/' ∧ d ≠ '-' := by
        intro d hd
        cases text with
        | nil => simp at hd
        | cons e text => exact hlast d (by rwa [List.getLast?_cons_cons])
      have hrest := ih (fun d hd => hplain d (List.mem_cons_of_mem _ hd)) hhyphen.2 hcomment.2
        hlastRest
      rw [List.cons_append, stripLineComments, stripLineCommentsFrom, hquote]
      · exact congrArg (c :: ·) hrest
      · rintro behind rfl heq
        cases text with
        | nil => exact (hlast '/' rfl).1 rfl
        | cons d text =>
            obtain ⟨rfl, -⟩ := List.cons.inj heq
            exact hcomment.1 (openingMark_prefix_cons.mpr ⟨rfl, rfl⟩)
      · exact hhash
      · rintro behind rfl heq
        cases text with
        | nil => exact (hlast '-' rfl).2 rfl
        | cons d text =>
            obtain ⟨rfl, -⟩ := List.cons.inj heq
            exact hhyphen.1 ⟨text, rfl⟩

/-- A plain identifier in backquotes comes out without them. -/
theorem decode_plainIdentifier {front identifier : Text} (hfront : IsClosed false front)
    (hcode : endRegion false front = .code) (h : IsPlainIdentifier identifier) (behind : Text) :
    decode false (front ++ '\x60' :: identifier ++ '\x60' :: behind)
      = decode false front ++ identifier ++ decode false behind := by
  have hinside : ∀ c ∈ identifier, c ≠ '\x60' ∧ c ≠ '\r' ∧ c ≠ '\n' := by
    intro c hc
    obtain ⟨hquote, -, hreturn, hnewline⟩ := h.plain c hc
    refine ⟨?_, hreturn, hnewline⟩
    rintro rfl
    exact absurd hquote (by decide)
  obtain ⟨c, hc⟩ : ∃ c, identifier.head? = some c := by
    simpa [List.head?_eq_some_iff] using List.exists_cons_of_ne_nil h.ne_nil
  have hhead (text : Text) : (identifier ++ text).head? = some c := by
    rw [List.head?_append_of_ne_nil _ h.ne_nil, hc]
  -- the first character makes no mark with what stands in front
  obtain ⟨htail, hstar, hslash, hhyphen⟩ := h.first c hc
  have hprecedes (text : Text) : (endRegion false front).Precedes (identifier ++ text) := by
    rw [hcode, Region.Precedes, hhead]
    exact ⟨by simpa using hstar, by simpa using hhyphen⟩
  have hfence (text : Text) : IsFence (identifier ++ text) := by
    intro d hd
    obtain rfl : c = d := by simpa [hhead] using hd
    exact ⟨htail, hstar, hslash⟩
  have hlines : stripLineComments (bare false (unifyNewlines front) ++
      (identifier ++ bare false (unifyNewlines behind)))
        = stripLineComments (bare false (unifyNewlines front)) ++
          (identifier ++ stripLineComments (bare false (unifyNewlines behind))) := by
    rw [stripLineComments, stripLineCommentsFrom_append (by simp) (hprecedes _), ← endRegion, hcode]
    exact congrArg _ (stripLineComments_append_of_plain
      (fun d hd => ⟨(h.plain d hd).1, (h.plain d hd).2.1⟩) h.hyphen h.comment h.last _)
  have hblock (text : Text) :
      openBlockComments (identifier ++ text) = identifier ++ openBlockComments text :=
    openBlockComments_append_of_not_isInfix h.comment fun hslash => absurd rfl (h.last '/' hslash).1
  rw [decode_quotedIdentifier_eq h.ne_nil hinside hfront.isPaired, hlines,
    openBlockComments_append hfront.isOrderly (hfence _), hblock, decode_eq, decode_eq,
    List.append_assoc]

/-! ## Quoted text -/

/-- What becomes of quoted text behind a closed beginning of a dump that ends in code. A literal
that closes itself is decoded on its own, and comes out as it stands just if no pass finds anything
in it. A backquoted identifier is decoded as if it had no quotes, and so a plain one comes out as
the same identifier without them. -/
theorem decode_quotedText {keepQuotes : Bool} {front : Text} (hfront : IsClosed keepQuotes front)
    (hcode : endRegion keepQuotes front = .code) (behind : Text) :
    (∀ literal, IsLiteral literal → IsUnmarked keepQuotes literal →
      decode keepQuotes (front ++ literal ++ behind)
        = decode keepQuotes front ++ literal ++ decode keepQuotes behind) ∧
    (∀ literal, IsLiteral literal → ClosesItself keepQuotes literal →
      decode keepQuotes (front ++ literal ++ behind)
        = decode keepQuotes front ++ decode keepQuotes literal ++ decode keepQuotes behind ∧
      (decode keepQuotes literal = literal ↔ IsUnmarked keepQuotes literal)) ∧
    (keepQuotes = false → ∀ identifier, identifier ≠ [] →
      (∀ c ∈ identifier, c ≠ '\x60' ∧ c ≠ '\r' ∧ c ≠ '\n') →
      decode keepQuotes (front ++ '\x60' :: identifier ++ '\x60' :: behind)
        = decode keepQuotes (front ++ identifier ++ behind)) ∧
    (keepQuotes = false → ∀ identifier, IsPlainIdentifier identifier →
      decode keepQuotes (front ++ '\x60' :: identifier ++ '\x60' :: behind)
        = decode keepQuotes front ++ identifier ++ decode keepQuotes behind) := by
  have hclosed (literal : Text) (hliteral : IsLiteral literal)
      (h : ClosesItself keepQuotes literal) : decode keepQuotes (front ++ literal ++ behind)
        = decode keepQuotes front ++ decode keepQuotes literal ++ decode keepQuotes behind := by
    obtain ⟨quote, inside, hquote, heq⟩ := hliteral.ends
    have hfollows : (endRegion keepQuotes front).IsFollowedBy quote := .inr ⟨hcode, hquote⟩
    have hbreak : quote = '\n' → front.getLast? ≠ some '\r' := by
      rintro rfl
      exact absurd hquote (by decide)
    have hwhole : quote :: (inside ++ [quote] ++ behind) = literal ++ behind := by rw [heq]; rfl
    have happend := decode_append hfront hbreak hfollows (inside ++ [quote] ++ behind)
    rw [hwhole] at happend
    rw [List.append_assoc, happend, decode_literal_append hliteral h, List.append_assoc]
  refine ⟨?_, ?_, ?_, ?_⟩
  · intro literal hliteral hmarks
    have hcloses := hmarks.closesItself hliteral
    rw [hclosed literal hliteral hcloses, (decode_literal_eq_self_iff hcloses).mpr hmarks]
  · intro literal hliteral hcloses
    exact ⟨hclosed literal hliteral hcloses, decode_literal_eq_self_iff hcloses⟩
  · rintro rfl identifier hne hinside
    exact decode_quotedIdentifier hne hinside hfront.isPaired behind
  · rintro rfl identifier hplain
    exact decode_plainIdentifier hfront hcode hplain behind

/-- Comments in front, one with a quote, and a literal with an escape and what looks like comments
and an identifier. -/
theorem decode_quotedText_commented :
    decode true "-- it's\n/* x */SET `t` = 'a#b -- c \\' `d`';".toList
        = "\nSET `t` = 'a#b -- c \\' `d`';".toList ∧
      decode false "-- it's\n/* x */DROP TABLE `my-table`;".toList
        = "\nDROP TABLE my-table;".toList := by
  have horderly (text : Text) (h : ¬ openingMark <:+: text) (hfollows : FollowsComment text) :
      IsOrderly ('\n' :: (blockText " x ".toList ++ text)) :=
    .char (fun hc => absurd hc (by decide))
      (.block (by decide) (by decide) hfollows (isOrderly_of_not_isInfix h))
  have hkept : IsClosed true "-- it's\n/* x */SET `t` = ".toList :=
    ⟨.inr rfl, horderly "SET `t` = ".toList (by decide) (by decide)⟩
  have hbare : IsClosed false "-- it's\n/* x */DROP TABLE ".toList :=
    ⟨.inl (by decide), horderly "DROP TABLE ".toList (by decide) (by decide)⟩
  have hliteral : IsLiteral "'a#b -- c \\' `d`'".toList :=
    ⟨'\x27', "a#b -- c \\' `d`".toList, .inl rfl, by decide, rfl⟩
  have hplain : IsPlainIdentifier "my-table".toList :=
    ⟨by decide, by decide, by decide, by decide, by simp; decide, by simp⟩
  have hend (keepQuotes : Bool) : decode keepQuotes ";".toList = ";".toList := by
    cases keepQuotes <;> decide +kernel
  constructor
  · have hfront : decode true "-- it's\n/* x */SET `t` = ".toList = "\nSET `t` = ".toList := by
      decide +kernel
    have h := (decode_quotedText hkept (by decide) ";".toList).1 _ hliteral
      ⟨by decide, .inr rfl, by decide⟩
    rw [hfront, hend] at h
    refine Eq.trans (congrArg (decode true) ?_) (h.trans ?_) <;> decide +kernel
  · have hfront : decode false "-- it's\n/* x */DROP TABLE ".toList = "\nDROP TABLE ".toList := by
      decide +kernel
    have h := (decode_quotedText hbare (by decide) ";".toList).2.2.2 rfl _ hplain
    rw [hfront, hend] at h
    refine Eq.trans (congrArg (decode false) ?_) (h.trans ?_) <;> decide +kernel

end SchemaMigration.Dump
