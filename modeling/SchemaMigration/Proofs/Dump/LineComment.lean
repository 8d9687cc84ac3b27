import SchemaMigration.Proofs.Dump.Decoding
import SchemaMigration.Proofs.Dump.Statement
import SchemaMigration.Schema.Parser

/-!
# Line comments of a dump

What the scanner for line comments leaves of a comment is the space in front of it, and spaces at
the end of a line do not matter for the statements. That holds as long as no backquote of the
comment finds its partner elsewhere: identifiers are made bare before comments are stripped.

## Main Definitions

* `PairsApart` - no identifier in quotes begins in one text and ends in the next
* `EndsLine` - a line ends between two texts, outside literals and block comments
* `IsTrailer` - what may be added at the end of a line
* `statements_append_trailer` - what is added there does not matter for the statements
* `Schema.parse_append_lineComment` - line comments do not matter for the schema
-/

namespace SchemaMigration

namespace Dump

open Text

variable {keepQuotes : Bool} {front added behind rest : Text}

/-- No backquote of a text has its partner in what follows. -/
def PairsApart (keepQuotes : Bool) (text rest : Text) : Prop :=
  IsPaired keepQuotes text ∨ '\x60' ∉ rest

theorem PairsApart.bare_append (h : PairsApart keepQuotes front rest) :
    bare keepQuotes (front ++ rest) = bare keepQuotes front ++ bare keepQuotes rest := by
  rcases h with h | h
  · exact Dump.bare_append h rest
  · cases keepQuotes with
    | true => rfl
    | false => exact stripIdentifierQuotes_append_of_notMem front h

/-! ## The end of a line -/

/-- A line ends between two texts, and the scanner for line comments stands outside literals and
block comments there. -/
structure EndsLine (keepQuotes : Bool) (front behind : Text) : Prop where
  region : endRegion keepQuotes front = .code ∨ endRegion keepQuotes front = .line
  opensLine : OpensLine (unifyNewlines behind)
  newline : front.getLast? = some '\r' → behind.head? ≠ some '\n'

/-- What may be added at the end of a line: it begins with a space, and the scanner for line
comments leaves spaces of it. -/
structure IsTrailer (keepQuotes : Bool) (added : Text) : Prop where
  newline : ∀ c ∈ added, c ≠ '\r' ∧ c ≠ '\n'
  first : ∀ c ∈ added.head?, c = ' ' ∨ c = '\t'
  strip : ∀ rest, OpensLine rest → ∃ pad, IsSpaces pad ∧
    stripLineCommentsFrom .code (bare keepQuotes added ++ rest)
      = pad ++ stripLineCommentsFrom .code rest

/-- A comment is left out up to the end of the line. -/
theorem stripLineCommentsFrom_line (h : '\n' ∉ added) (rest : Text) :
    stripLineCommentsFrom .line (added ++ rest) = stripLineCommentsFrom .line rest := by
  induction added with
  | nil => rfl
  | cons c added ih =>
      rw [List.mem_cons, not_or] at h
      rw [List.cons_append, stripLineCommentsFrom, ih h.2]
      exact Ne.symm h.1

/-- The end of a line is read in a comment as it is in code. -/
theorem OpensLine.stripLineCommentsFrom_line (h : OpensLine rest) :
    stripLineCommentsFrom .line rest = stripLineCommentsFrom .code rest := by
  rcases h with rfl | hhead
  · rfl
  · obtain ⟨rest, rfl⟩ := List.head?_eq_some_iff.mp hhead
    rfl

theorem OpensLine.stripLineCommentsFrom (h : OpensLine rest) :
    OpensLine (stripLineCommentsFrom .code rest) := by
  rcases h with rfl | hhead
  · exact .inl rfl
  · obtain ⟨rest, rfl⟩ := List.head?_eq_some_iff.mp hhead
    exact .inr rfl

theorem OpensLine.bare (h : OpensLine rest) (keepQuotes : Bool) :
    OpensLine (bare keepQuotes rest) := by
  rcases h with rfl | hhead
  · cases keepQuotes <;> exact .inl rfl
  · obtain ⟨rest, rfl⟩ := List.head?_eq_some_iff.mp hhead
    rw [bare_cons (by decide)]
    exact .inr rfl

/-- Spaces may be added at the end of a line. -/
theorem isTrailer_of_isSpaces (h : IsSpaces added) : IsTrailer keepQuotes added where
  newline := by
    intro c hc
    rcases h c hc with rfl | rfl <;> decide
  first c hc := h c (List.mem_of_mem_head? hc)
  strip rest _ := by
    have hbackquote : '\x60' ∉ added := fun hmem => absurd (h _ hmem) (by decide)
    refine ⟨added, h, ?_⟩
    rw [bare_eq_self (.inl hbackquote)]
    clear hbackquote
    induction added with
    | nil => rfl
    | cons c added ih =>
        have hrest := ih fun d hd => h d (List.mem_cons_of_mem _ hd)
        rcases h c (by simp) with rfl | rfl <;>
        · rw [List.cons_append, ← stripLineComments,
            stripLineComments_cons (by decide) (by decide) (by decide)]
          exact congrArg (List.cons _) hrest

/-- A line comment may be added at the end of a line. -/
theorem isTrailer_lineComment {mark comment : Text}
    (hmark : mark = " # ".toList ∨ mark = " -- ".toList)
    (hcomment : ∀ c ∈ comment, c ≠ '\r' ∧ c ≠ '\n') : IsTrailer keepQuotes (mark ++ comment) where
  newline := by
    have hspaces : ∀ c ∈ mark, c ≠ '\r' ∧ c ≠ '\n' := by rcases hmark with rfl | rfl <;> decide
    exact List.forall_mem_append.mpr ⟨hspaces, hcomment⟩
  first := by rcases hmark with rfl | rfl <;> simp
  strip rest hrest := by
    have hbackquote : '\x60' ∉ mark := by rcases hmark with rfl | rfl <;> decide
    have hnewline : '\n' ∉ ' ' :: bare keepQuotes comment := by
      rw [List.mem_cons, not_or]
      exact ⟨by decide, fun hmem => (hcomment _ (mem_of_mem_bare hmem)).2 rfl⟩
    -- the space in front of the mark is all that is left
    refine ⟨[' '], by simp [IsSpaces], ?_⟩
    have hline := Dump.stripLineCommentsFrom_line hnewline rest
    rw [hrest.stripLineCommentsFrom_line] at hline
    rw [bare_append_of_notMem hbackquote, ← hline]
    rcases hmark with rfl | rfl <;> rfl

/-- Blanks, or nothing, are read in code and in line comments as if nothing stood in front. -/
theorem Region.precedes_of_blank {region : Region} (hregion : region = .code ∨ region = .line)
    (hrest : ∀ c ∈ rest.head?, c = ' ' ∨ c = '\t' ∨ c = '\n') : region.Precedes rest := by
  cases rest with
  | nil => rcases hregion with rfl | rfl <;> simp [Precedes, opensDashComment]
  | cons c rest =>
      rcases hregion with rfl | rfl <;> rcases hrest c rfl with rfl | rfl | rfl <;>
        simp [Precedes, opensDashComment]

/-- What the scanner reads gets spaces by what is added at the end of a line, or nothing at all
where the line ends in a comment anyway. -/
theorem isPadded_append_trailer {text line : Text} (hline : OpensLine line)
    (hregion : regionBehind .code text = .code ∨ regionBehind .code text = .line)
    (hadded : IsTrailer keepQuotes added) : IsPadded (stripLineComments (text ++ line))
      (stripLineComments (text ++ (bare keepQuotes added ++ line))) := by
  have hfirst : ∀ c ∈ line.head?, c = ' ' ∨ c = '\t' ∨ c = '\n' := by
    intro c hc
    rcases hline with rfl | hhead
    · cases hc
    · obtain rfl : '\n' = c := by simpa [hhead] using hc
      simp
  have hfirstAdded :
      ∀ c ∈ (bare keepQuotes added ++ line).head?, c = ' ' ∨ c = '\t' ∨ c = '\n' := by
    -- a space in front makes no mark with what stands in front of it
    have hspace := hadded.first
    cases added with
    | nil => rwa [bare_eq_self (.inl (by simp)), List.nil_append]
    | cons d added =>
        have hd := hspace d rfl
        rw [bare_cons (by rcases hd with rfl | rfl <;> decide)]
        intro c hc
        obtain rfl : d = c := by simpa using hc
        exact hd.imp_right .inl
  have hnewline : '\n' ∉ bare keepQuotes added :=
    fun hmem => (hadded.newline _ (mem_of_mem_bare hmem)).2 rfl
  obtain ⟨pad, hpad, hstrip⟩ := hadded.strip line hline
  rw [stripLineComments, stripLineComments,
    stripLineCommentsFrom_append (by simp) (Region.precedes_of_blank hregion hfirst),
    stripLineCommentsFrom_append (by simp) (Region.precedes_of_blank hregion hfirstAdded)]
  rcases hregion with hcode | hcomment
  · rw [hcode, hstrip]
    exact ⟨_, pad, _, hpad, hline.stripLineCommentsFrom, rfl, rfl⟩
  · rw [hcomment, stripLineCommentsFrom_line hnewline]
    exact .refl _

/-- What is added at the end of a line does not matter for the statements. -/
theorem statements_append_trailer (hline : EndsLine keepQuotes front behind)
    (hadded : IsTrailer keepQuotes added)
    (hfront : PairsApart keepQuotes (unifyNewlines front) (added ++ behind))
    (hpairs : PairsApart keepQuotes added behind) :
    statements (decode keepQuotes (front ++ (added ++ behind)))
      = statements (decode keepQuotes (front ++ behind)) := by
  have hreturn : '\r' ∉ added := fun hmem => (hadded.newline _ hmem).1 rfl
  have hbreak (hlast : front.getLast? = some '\r') : (added ++ behind).head? ≠ some '\n' := by
    cases added with
    | nil => exact hline.newline hlast
    | cons c added => simpa using (hadded.newline c (by simp)).2
  have hunify : '\x60' ∉ behind → '\x60' ∉ unifyNewlines behind :=
    fun h hmem => h (mem_of_mem_unifyNewlines hmem)
  have hfrontText : PairsApart keepQuotes (unifyNewlines front) (unifyNewlines behind) :=
    hfront.imp_right fun h => hunify fun hmem => h (List.mem_append_right _ hmem)
  have hfrontPadded :
      PairsApart keepQuotes (unifyNewlines front) (added ++ unifyNewlines behind) := by
    refine hfront.imp_right fun h => ?_
    rw [List.mem_append, not_or] at h ⊢
    exact h.imp_right hunify
  have hpadded := isPadded_append_trailer (hline.opensLine.bare keepQuotes) hline.region hadded
  have hpairsUnified : PairsApart keepQuotes added (unifyNewlines behind) := hpairs.imp_right hunify
  rw [← hpairsUnified.bare_append, ← hfrontPadded.bare_append, ← hfrontText.bare_append,
    ← unifyNewlines_append_of_notMem hreturn, ← unifyNewlines_append hbreak,
    ← unifyNewlines_append hline.newline] at hpadded
  rw [decode_eq, decode_eq]
  exact statements_of_isPadded hpadded.openBlockComments

end Dump

namespace Schema

open Text Dump

variable {keepQuotes : Bool}

/-- The schema of a dump is told from its statements; only the text that an error shows is not. -/
theorem toOption_parse_congr {raw raw' : Text}
    (h : statements (decode keepQuotes raw') = statements (decode keepQuotes raw))
    (source : Text) :
    (parse keepQuotes source raw').toOption = (parse keepQuotes source raw).toOption := by
  rw [parse, parse, definitions, definitions]
  simp only [h]
  -- without a definition there is no schema, but an error that shows the text
  split
  · rfl
  · rfl

/-- A line comment at the end of a line does not matter for the schema of a dump, nor for whether
there is one. The line ends outside literals and block comments, and no identifier in quotes goes
across its end; and no backquote of the comment pairs with one behind it. -/
theorem parse_append_lineComment {front mark comment behind : Text}
    (hline : EndsLine keepQuotes front behind)
    (hfront : PairsApart keepQuotes (unifyNewlines front) (comment ++ behind))
    (hmark : mark = " # ".toList ∨ mark = " -- ".toList)
    (hcomment : ∀ c ∈ comment, c ≠ '\r' ∧ c ≠ '\n')
    (hpairs : PairsApart keepQuotes comment behind) (source : Text) :
    (parse keepQuotes source (front ++ (mark ++ comment ++ behind))).toOption
      = (parse keepQuotes source (front ++ behind)).toOption := by
  have hbackquote : '\x60' ∉ mark := by rcases hmark with rfl | rfl <;> decide
  have hfrontAdded :
      PairsApart keepQuotes (unifyNewlines front) (mark ++ comment ++ behind) := by
    refine hfront.imp_right fun h hmem => ?_
    rw [List.append_assoc, List.mem_append] at hmem
    exact hmem.elim hbackquote h
  have hpairsAdded : PairsApart keepQuotes (mark ++ comment) behind :=
    hpairs.imp_left fun h => h.append_left hbackquote
  exact toOption_parse_congr
    (statements_append_trailer hline (isTrailer_lineComment hmark hcomment) hfrontAdded hpairsAdded)
    source

/-- A comment with quotes of every sort behind a line in the middle of a table. -/
theorem parse_append_lineComment_quoted :
    ((parse false [] ("CREATE TABLE t (\n  \x60a\x60 int,".toList ++ (" # ".toList ++
        "it's \x60a\x60; /* \"".toList ++ "\n  \x60b\x60 int\n);".toList))).toOption.map
      fun schema => schema.tables.map (·.columnNames)) = some [["a".toList, "b".toList]] := by
  have hline : EndsLine false "CREATE TABLE t (\n  \x60a\x60 int,".toList
      "\n  \x60b\x60 int\n);".toList := ⟨.inl (by decide), .inr (by decide), by decide⟩
  rw [parse_append_lineComment hline (.inl (.inl (by decide))) (.inl rfl) (by decide)
    (.inl (.inl (by decide))) []]
  decide +kernel

end Schema

end SchemaMigration
