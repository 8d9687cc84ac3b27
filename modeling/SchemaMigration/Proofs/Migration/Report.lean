import SchemaMigration.Proofs.Dump.Decoding
import SchemaMigration.Proofs.Migration.Comment
import SchemaMigration.Report

/-!
# Comments in a report

A comment is printed behind its statement, on the same line. So whoever runs a report passes over
it, unless something is open in front of it: a literal, a quoted identifier or a block comment that
the report has not closed yet. Then the old definition is read as part of the statement, up to the
quote that closes it, and what is behind that quote as statements of its own.

## Main Definitions

* `Report.front` - a report up to the comment of one of its statements
* `Report.comment_stays` - where comments are printed, and when they are passed over
-/

namespace SchemaMigration

open Text

namespace Dump

/-! ## Reading a comment -/

/-- Only quotes open literals and quoted identifiers. -/
theorem isQuote_of_regionBehind {region : Region} {text : Text} {quote : Char}
    (hregion : ∀ opened, region = .quoted opened → isQuote opened = true)
    (h : regionBehind region text = .quoted quote) : isQuote quote = true := by
  fun_induction regionBehind region text with
  | case1 region => exact hregion quote h
  | case2 c text ih => exact ih hregion h
  | case3 opened c text _ ih => exact ih hregion h
  | case4 opened c text _ ih =>
    refine ih (fun other hother => ?_) h
    split at hother
    · cases hother
    · exact hregion other hother
  | case13 c text _ _ _ ih =>
    refine ih (fun other hother => ?_) h
    split at hother
    · rename_i hc
      exact Region.quoted.inj hother ▸ hc
    · cases hother
  | case5 text ih | case6 c text _ ih | case7 text ih | case8 c text _ ih | case9 text ih
  | case10 text ih | case11 text _ ih | case12 text _ ih => exact ih (by simp) h

/-- A comment at the end of a line is passed over just if nothing is open in front of it. -/
theorem stripLineComments_comment {front comment : Text} (hfront : EndsPlain front)
    (hcomment : IsOneLine comment) (rest : Text) :
    stripLineComments (front ++ (" # ".toList ++ comment ++ '\n' :: rest)) =
        stripLineComments (front ++ (' ' :: '\n' :: rest)) ↔
      regionBehind .code front = .code ∨ regionBehind .code front = .line := by
  have hline : stripLineCommentsFrom .line (' ' :: comment ++ '\n' :: rest) =
      '\n' :: stripLineCommentsFrom .code rest :=
    stripLineCommentsFrom_line (by simpa [IsOneLine] using hcomment) ('\n' :: rest)
  have hcode : stripLineCommentsFrom .code (" # ".toList ++ comment ++ '\n' :: rest) =
      ' ' :: stripLineCommentsFrom .line (' ' :: comment ++ '\n' :: rest) := rfl
  rw [stripLineComments, stripLineComments, stripLineCommentsFrom_append_of (by simp) (.inr hfront),
    stripLineCommentsFrom_append_of (by simp) (.inr hfront), List.append_cancel_left_eq]
  cases hregion : regionBehind .code front with
  | code =>
      rw [hcode, hline]
      exact iff_of_true rfl (.inl rfl)
  | line =>
      have hwhole : stripLineCommentsFrom .line (" # ".toList ++ comment ++ '\n' :: rest) =
          stripLineCommentsFrom .line (' ' :: comment ++ '\n' :: rest) := rfl
      rw [hwhole, hline]
      exact iff_of_true rfl (.inr rfl)
  | block =>
      -- the mark of the comment is read as part of what is open
      have hmark : stripLineCommentsFrom .block (" # ".toList ++ comment ++ '\n' :: rest) =
          ' ' :: '#' :: stripLineCommentsFrom .block (' ' :: comment ++ '\n' :: rest) := rfl
      have hplain : stripLineCommentsFrom .block (' ' :: '\n' :: rest) =
          ' ' :: '\n' :: stripLineCommentsFrom .block rest := rfl
      rw [hmark, hplain]
      simp
  | quoted quote =>
      have hquote : isQuote quote = true := isQuote_of_regionBehind (by simp) hregion
      have hstays {c : Char} (hc : isQuote c = false) (hescape : c ≠ '\\') (text : Text) :
          stripLineCommentsFrom (.quoted quote) (c :: text) =
            c :: stripLineCommentsFrom (.quoted quote) text := by
        have hne : c ≠ quote := by
          rintro rfl
          rw [hquote] at hc
          cases hc
        rw [stripLineCommentsFrom, if_neg hne]
        exact fun _ _ heq => absurd heq hescape
      have hmark : " # ".toList ++ comment ++ '\n' :: rest =
          ' ' :: '#' :: (' ' :: comment ++ '\n' :: rest) := rfl
      rw [hmark, hstays (by decide) (by decide), hstays (by decide) (by decide),
        hstays (by decide) (by decide), hstays (by decide) (by decide)]
      simp

end Dump

namespace Report

/-! ## Lines of a report -/

/-- Nothing is behind the last newline of a text. -/
def EndsLine (text : Text) : Prop := text = [] ∨ ∃ front, text = front ++ ['\n']

theorem EndsLine.append {front back : Text} (hfront : EndsLine front) (hback : EndsLine back) :
    EndsLine (front ++ back) := by
  rcases hback with rfl | ⟨back, rfl⟩
  · rwa [List.append_nil]
  · exact .inr ⟨front ++ back, (List.append_assoc ..).symm⟩

theorem EndsLine.flatMap {α : Type} {items : List α} {text : α → Text}
    (h : ∀ item ∈ items, EndsLine (text item)) : EndsLine (items.flatMap text) := by
  induction items with
  | nil => exact .inl rfl
  | cons item items ih =>
      obtain ⟨hitem, hitems⟩ := List.forall_mem_cons.mp h
      rw [List.flatMap_cons]
      exact hitem.append (ih hitems)

/-- What stands between two newlines is a line. -/
theorem EndsLine.mem_lines {front line : Text} (hfront : EndsLine front) (hline : IsOneLine line)
    (rest : Text) : line ∈ lines (front ++ (line ++ '\n' :: rest)) := by
  rcases hfront with rfl | ⟨front, rfl⟩
  · rw [List.nil_append, lines_append_newline_cons hline]
    exact List.mem_cons_self
  · rw [List.append_assoc, List.singleton_append, lines_append_cons,
      lines_append_newline_cons hline]
    simp

theorem endsLine_banner (stamp : Stamp) (oldSource newSource : Text) (options : Options) :
    EndsLine (banner stamp oldSource newSource options) := by
  have hends (front : List Text) (a b c : Text) :
      EndsLine (unlines (front ++ [a, b, c, [], []])) := by
    have hblank : front ++ [a, b, c, [], []] = (front ++ [a, b, c]) ++ [[], []] := by simp
    rw [hblank, unlines_append (by simp) (by simp)]
    exact .inr ⟨unlines (front ++ [a, b, c]) ++ ['\n'], by simp [unlines, join]⟩
  exact hends _ _ _ _

theorem endsLine_header (statement : Statement) (withReferences : Bool) :
    EndsLine (header statement withReferences) :=
  .inr ⟨_, rfl⟩

theorem endsLine_renderStatement (statement : Statement) (options : Options) :
    EndsLine (renderStatement statement options) := by
  have hgap : EndsLine (if statement.isSpaced then "\n".toList else []) := by
    split
    · exact .inr ⟨[], rfl⟩
    · exact .inl rfl
  exact EndsLine.append (.inr ⟨_, rfl⟩) hgap

/-! ## Where comments are printed -/

variable (c : SchemaComparison) (now : Text) (earlier : List Statement) (statement : Statement)

/-- A report up to the statement that follows some earlier ones. -/
def lead : Text :=
  (if c.options.listTables then []
    else banner ⟨version, now⟩ c.old.source c.new.source c.options) ++
  earlier.flatMap (renderStatement · c.options) ++
  if c.options.listTables then header statement true else []

/-- A report up to the comment of a statement. -/
def front : Text := lead c now earlier statement ++ statement.sql

theorem endsLine_lead : EndsLine (lead c now earlier statement) := by
  refine EndsLine.append (EndsLine.append ?_ ?_) ?_
  · split
    · exact .inl rfl
    · exact endsLine_banner ..
  · exact EndsLine.flatMap fun other _ => endsLine_renderStatement other c.options
  · split
    · exact endsLine_header ..
    · exact .inl rfl

variable {c now earlier statement}

/-- The comment of a statement is behind it, and behind the comment is the end of the line. -/
theorem exists_ofSchemas_eq {later : List Statement} (hrefs : c.options.refs = false)
    (hshows : c.options.noOldDefs = false)
    (hstatements : c.statements = earlier ++ statement :: later)
    (hcomment : statement.comment ≠ []) : ∃ rest, ofSchemas c now =
      front c now earlier statement ++ (" # ".toList ++ statement.comment ++ '\n' :: rest) := by
  have hrender : renderStatement statement c.options =
      (if c.options.listTables then header statement true else []) ++ statement.sql ++
        (" # ".toList ++ statement.comment ++ '\n' ::
          if statement.isSpaced then "\n".toList else []) := by
    simp [renderStatement, hshows, hcomment]
  refine ⟨(if statement.isSpaced then "\n".toList else []) ++
    later.flatMap (renderStatement · c.options), ?_⟩
  simp [ofSchemas, hrefs, render, hstatements, hrender, front, lead]

end Report

/-- No comment has a newline. Where comments are printed, each is on one line with its statement,
and whoever strips line comments strips it, with everything in it, just if the report leaves no
literal, no quoted identifier and no block comment open in front of it. -/
theorem Report.comment_stays {c : SchemaComparison} {keepQuotes keepQuotes' : Bool}
    {oldSource newSource oldText newText : Text}
    (hold : Schema.parse keepQuotes oldSource oldText = .ok c.old)
    (hnew : Schema.parse keepQuotes' newSource newText = .ok c.new) :
    (∀ statement ∈ c.statements, '\n' ∉ statement.comment) ∧
    (c.options.refs = false → c.options.noOldDefs = false → ∀ now earlier statement later,
      c.statements = earlier ++ statement :: later → statement.comment ≠ [] →
      ∃ rest, ofSchemas c now = front c now earlier statement ++
          (" # ".toList ++ statement.comment ++ '\n' :: rest) ∧
        statement.sql ++ " # ".toList ++ statement.comment ∈ lines (ofSchemas c now) ∧
        (Dump.stripLineComments (ofSchemas c now) =
            Dump.stripLineComments (front c now earlier statement ++ ' ' :: '\n' :: rest) ↔
          Dump.regionBehind .code (front c now earlier statement) = .code ∨
          Dump.regionBehind .code (front c now earlier statement) = .line)) := by
  refine ⟨fun statement h => SchemaComparison.isOneLine_comment hold h, ?_⟩
  intro hrefs hshows now earlier statement later hstatements hcomment
  have hmem : statement ∈ c.statements := by simp [hstatements]
  have hline := SchemaComparison.isOneLine_comment hold hmem
  obtain ⟨text, hsql, htext⟩ := SchemaComparison.isOneLine_sql hold hnew hmem hcomment
  obtain ⟨rest, hreport⟩ : ∃ rest, ofSchemas c now = front c now earlier statement ++
      (" # ".toList ++ statement.comment ++ '\n' :: rest) :=
    exists_ofSchemas_eq hrefs hshows hstatements hcomment
  refine ⟨rest, hreport, ?_, ?_⟩
  · have hwhole : IsOneLine (statement.sql ++ " # ".toList ++ statement.comment) := by
      rw [hsql]
      simp only [isOneLine_append]
      exact ⟨⟨⟨htext, by decide⟩, by decide⟩, hline⟩
    have hlines := (endsLine_lead c now earlier statement).mem_lines hwhole rest
    rw [hreport, front]
    simpa using hlines
  · have hends : Dump.EndsPlain (front c now earlier statement) := by
      intro d hd
      obtain rfl : ';' = d := by simpa [front, hsql] using hd
      decide
    rw [hreport]
    exact Dump.stripLineComments_comment hends hline rest

/-- A table of two columns, which is read off the given text. -/
def quotingTable (first second text : Text) : Table where
  name := "t"
  columns := [⟨"a", first, 0⟩, ⟨"c", second, 1⟩]
  indexes := []
  primaryKey := none
  foreignKeys := []
  checks := []
  options := []
  definition := text

/-- The text of a table whose lines are given. -/
def quotingText (lines : List Text) : Text :=
  unlines ("CREATE TABLE t (".toList :: lines ++ [");".toList])

/-- The default of the new column goes over two lines, so it is read as two columns. -/
def parted : SchemaComparison where
  old := {
    tables := [quotingTable "int" "varchar(9) COMMENT '; DROP TABLE x; '"
      (quotingText ["  a int,", "  c varchar(9) COMMENT '; DROP TABLE x; '"])]
    views := []
    routines := []
    source := [] }
  new := {
    tables := [{ quotingTable "bigint" "varchar(9) DEFAULT 'a"
        (quotingText ["  a bigint,", "  c varchar(9) DEFAULT 'a", "b c'"]) with
      columns := [⟨"a", "bigint", 0⟩, ⟨"c", "varchar(9) DEFAULT 'a", 1⟩, ⟨"b", "c'", 2⟩] }]
    views := []
    routines := []
    source := [] }
  options := .default

/-- The first comment is stripped. In front of the second one a literal is open, so the second one
is not. -/
theorem Report.comment_stays_parted : ∃ first second last : TableStep,
    parted.statements = [first.statement "t", second.statement "t", last.statement "t"] ∧
    second.comment = "was varchar(9) COMMENT '; DROP TABLE x; '".toList ∧
    (∃ rest, ofSchemas parted [] = front parted [] [] (first.statement "t") ++
        (" # ".toList ++ first.comment ++ '\n' :: rest) ∧
      Dump.stripLineComments (ofSchemas parted []) = Dump.stripLineComments
        (front parted [] [] (first.statement "t") ++ ' ' :: '\n' :: rest)) ∧
    ∃ rest, ofSchemas parted [] = front parted [] [first.statement "t"] (second.statement "t") ++
        (" # ".toList ++ second.comment ++ '\n' :: rest) ∧
      Dump.stripLineComments (ofSchemas parted []) ≠ Dump.stripLineComments
        (front parted [] [first.statement "t"] (second.statement "t") ++ ' ' :: '\n' :: rest) := by
  let first : TableStep := ⟨.changeColumn "a" "bigint", .changeColumn, "was int"⟩
  let second : TableStep := ⟨.changeColumn "c" "varchar(9) DEFAULT 'a", .changeColumn,
    "was varchar(9) COMMENT '; DROP TABLE x; '"⟩
  let last : TableStep := ⟨.addColumn "b" "c'" .none .last, .addColumn, []⟩
  have hold : Schema.parse false [] (quotingText
      ["  a int,", "  c varchar(9) COMMENT '; DROP TABLE x; '"]) = .ok parted.old := by
    decide +kernel
  have hnew : Schema.parse false [] (quotingText
      ["  a bigint,", "  c varchar(9) DEFAULT 'a", "b c'"]) = .ok parted.new := by
    decide +kernel
  have hstatements : parted.statements =
      [first.statement "t", second.statement "t", last.statement "t"] := by decide +kernel
  have hcode : Dump.regionBehind .code (front parted [] [] (first.statement "t")) = .code := by
    decide +kernel
  have hquoted : Dump.regionBehind .code
      (front parted [] [first.statement "t"] (second.statement "t")) = .quoted '\x27' := by
    decide +kernel
  obtain ⟨-, hreport⟩ := comment_stays hold hnew
  obtain ⟨rest, hfirst, -, hstripped⟩ := hreport rfl rfl [] [] _ _ hstatements (by decide)
  obtain ⟨rest', hsecond, -, hstripped'⟩ :=
    hreport rfl rfl [] [first.statement "t"] _ _ hstatements (by decide)
  refine ⟨first, second, last, hstatements, rfl, ⟨rest, hfirst, hstripped.mpr (.inl hcode)⟩, rest',
    hsecond, fun hsame => ?_⟩
  have hregion := hstripped'.mp hsame
  rw [hquoted] at hregion
  simp at hregion

end SchemaMigration
