import SchemaMigration.Proofs.Dump.QuotedText
import SchemaMigration.Proofs.Table.Enclosed
import SchemaMigration.Proofs.Text.PartedText

/-!
# Balanced text

Parentheses match where counting says so: no beginning of a text closes more of them than it opens,
and the whole text closes as many as it opens. Those in literals do not count, so counting goes over
the characters outside literals, and a text that leaves a literal open is not balanced at all.

## Main Definitions

* `HasCode` - a text that leaves no literal open, and its characters outside literals
* `HasCode.unique` - there is one way to read a text so
* `Balances` - parentheses that match, by counting
* `IsBalanced` - a text whose parentheses outside literals match
* `parenthesised?_eq_some_iff_isBalanced` - reading to the parenthesis that matches the first one
* `IsListPart` - a balanced text that may stand between the commas of a list
* `listItems_join_listParts` - lists of such texts, and those that were read, are read back

## Design Notes

`HasCode` divides a text into literals and single characters. It knows nothing of the scanner, which
goes from character to character and keeps in mind where it stands.
-/

namespace SchemaMigration

open Text

/-! ## Characters outside literals -/

/-- A text that leaves no literal open, and its characters outside literals. -/
inductive HasCode : (text code : Text) → Prop
  | nil : HasCode [] []
  | char {c : Char} {text code : Text} (hc : ¬ IsQuoteMark c) (hmore : HasCode text code) :
      HasCode (c :: text) (c :: code)
  | literal {literal text code : Text} (hliteral : Dump.IsLiteral literal)
      (hmore : HasCode text code) : HasCode (literal ++ text) code

theorem HasCode.hasNoQuotes {text code : Text} (h : HasCode text code) : HasNoQuotes code := by
  induction h with
  | nil => simp [HasNoQuotes]
  | char hc _ ih => exact List.forall_mem_cons.mpr ⟨hc, ih⟩
  | literal _ _ ih => exact ih

/-- A literal begins with a quote, and no single character outside literals is one. -/
theorem not_isLiteral_append {c : Char} {text literal rest : Text} (hc : ¬ IsQuoteMark c)
    (heq : c :: text = literal ++ rest) : ¬ Dump.IsLiteral literal := by
  rintro ⟨quote, inside, hquote, -, rfl⟩
  obtain ⟨rfl, -⟩ := List.cons.inj heq
  exact hc hquote

theorem hasCode_nil_iff {code : Text} : HasCode [] code ↔ code = [] := by
  constructor
  · intro h
    generalize htext : [] = text at h
    cases h with
    | nil => rfl
    | char _ _ => cases htext
    | literal hliteral _ =>
        obtain ⟨quote, inside, -, -, rfl⟩ := hliteral
        cases htext
  · rintro rfl
    exact .nil

theorem hasCode_cons_iff {c : Char} {text code : Text} (hc : ¬ IsQuoteMark c) :
    HasCode (c :: text) code ↔ ∃ more, code = c :: more ∧ HasCode text more := by
  constructor
  · intro h
    generalize htext : c :: text = whole at h
    cases h with
    | nil => cases htext
    | char _ hmore =>
        obtain ⟨rfl, rfl⟩ := List.cons.inj htext
        exact ⟨_, rfl, hmore⟩
    | literal hliteral _ => exact absurd hliteral (not_isLiteral_append hc htext)
  · rintro ⟨more, rfl, hmore⟩
    exact .char hc hmore

theorem hasCode_literal_append_iff {literal text code : Text} (h : Dump.IsLiteral literal) :
    HasCode (literal ++ text) code ↔ HasCode text code := by
  constructor
  · intro hread
    generalize htext : literal ++ text = whole at hread
    cases hread with
    | nil =>
        obtain ⟨quote, inside, -, -, rfl⟩ := h
        cases htext
    | char hc _ => exact absurd h (not_isLiteral_append hc htext.symm)
    | literal hother hmore =>
        obtain rfl := h.unique hother htext
        exact List.append_cancel_left htext ▸ hmore
  · exact .literal h

/-- A text is read in one way only. -/
theorem HasCode.unique {text code other : Text} (h : HasCode text code)
    (hother : HasCode text other) : code = other := by
  induction h generalizing other with
  | nil => exact (hasCode_nil_iff.mp hother).symm
  | char hc _ ih =>
      obtain ⟨more, rfl, hmore⟩ := (hasCode_cons_iff hc).mp hother
      rw [ih hmore]
  | literal hliteral _ ih => exact ih ((hasCode_literal_append_iff hliteral).mp hother)

theorem HasCode.append {text code front inside : Text} (hfront : HasCode front inside)
    (h : HasCode text code) : HasCode (front ++ text) (inside ++ code) := by
  induction hfront with
  | nil => exact h
  | char hc _ ih => exact .char hc ih
  | literal hliteral _ ih =>
      rw [List.append_assoc]
      exact .literal hliteral ih

theorem hasCode_self {text : Text} (h : HasNoQuotes text) : HasCode text text := by
  induction text with
  | nil => exact .nil
  | cons c text ih =>
      obtain ⟨hc, hmore⟩ := List.forall_mem_cons.mp h
      exact .char hc (ih hmore)

theorem fst_scan (s : ListState) (text : Text) : (scan s text).1 = s.1.behind text := by
  induction text generalizing s with
  | nil => rfl
  | cons c text ih => exact ih (s.next c)

/-- Outside literals a character that is no quote changes nothing but the depth. -/
theorem next_of_not_isQuoteMark {c : Char} (hc : ¬ IsQuoteMark c) (depth : Nat) :
    ListState.next (.outside, depth) c = (.outside, depthAfter c depth .outside) :=
  Prod.ext (Literal.next_outside hc) rfl

/-- A scanner outside literals does not come to a mark at depth zero. -/
def Avoids (mark : Char) (s : ListState) : Text → Prop
  | [] => True
  | c :: text => ¬ (c = mark ∧ s.2 = 0 ∧ s.1 = .outside) ∧ Avoids mark (s.next c) text

theorem staysOpen_iff_avoids {s : ListState} {text : Text} :
    StaysOpen s text ↔ Avoids ')' s text := by
  induction text generalizing s with
  | nil => exact Iff.rfl
  | cons c text ih => exact and_congr_right' ih

theorem isWhole_iff_avoids {s : ListState} {text : Text} :
    IsWhole s text ↔ Avoids ',' s text := by
  induction text generalizing s with
  | nil => exact Iff.rfl
  | cons c text ih => exact and_congr_right' ih

section

variable {mark quote : Char} {s : ListState} {text code : Text}

theorem avoids_append {front back : Text} :
    Avoids mark s (front ++ back) ↔ Avoids mark s front ∧ Avoids mark (scan s front) back := by
  induction front generalizing s with
  | nil => simp [Avoids]
  | cons c front ih => simp [Avoids, ih, and_assoc]

theorem avoids_iff_forall :
    Avoids mark s text ↔ ∀ front, front ++ [mark] <+: text → scan s front ≠ .start := by
  constructor
  · rintro h front ⟨back, rfl⟩ hstart
    rw [List.append_assoc, avoids_append, hstart] at h
    exact h.2.1 ⟨rfl, rfl, rfl⟩
  · intro h
    induction text generalizing s with
    | nil => trivial
    | cons c text ih =>
        refine ⟨?_, ih fun front hfront => h (c :: front) ((List.prefix_cons_inj c).mpr hfront)⟩
        rintro ⟨rfl, hdepth, houtside⟩
        exact h [] ⟨text, rfl⟩ (Prod.ext houtside hdepth)

/-- In a literal there is no mark to come to. -/
theorem avoids_cons_of_ne (h : s.1 ≠ .outside) (c : Char) :
    Avoids mark s (c :: text) ↔ Avoids mark (s.next c) text := by
  simp [Avoids, h]

/-- A literal leads a scanner inside it to its end, and to no mark. -/
theorem scan_literalBody (hquote : IsQuoteMark quote) {inside : Text}
    (h : Dump.isLiteralBody quote inside = true) (depth : Nat) :
    scan (.inside quote, depth) (inside ++ [quote]) = (.outside, depth) ∧
      Avoids mark (.inside quote, depth) (inside ++ [quote]) := by
  have hslash : quote ≠ '\\' := by rcases hquote with rfl | rfl <;> decide
  fun_induction Dump.isLiteralBody quote inside with
  | case1 =>
    rw [List.nil_append, avoids_cons_of_ne (by simp)]
    exact ⟨Prod.ext (Literal.next_closing hquote) rfl, trivial⟩
  | case2 c inside ih =>
    obtain ⟨hscan, havoids⟩ := ih h
    simp only [List.cons_append]
    rw [avoids_cons_of_ne (by simp), avoids_cons_of_ne (by simp [ListState.next, Literal.next])]
    exact ⟨hscan, havoids⟩
  | case3 c inside _ ih =>
    simp only [Bool.and_eq_true, bne_iff_ne, ne_eq] at h
    obtain ⟨⟨hc, hescape⟩, hbody⟩ := h
    have hnext : ListState.next (.inside quote, depth) c = (.inside quote, depth) := by
      simp [ListState.next, Literal.next, depthAfter, hc, hescape]
    rw [List.cons_append, avoids_cons_of_ne (by simp), scan_cons, hnext]
    exact ih hbody

/-- Literals leave a scanner where it stands. -/
theorem scan_literal (hmark : ¬ IsQuoteMark mark) {literal : Text} (h : Dump.IsLiteral literal)
    (depth : Nat) : scan (.outside, depth) literal = (.outside, depth) ∧
      Avoids mark (.outside, depth) literal := by
  obtain ⟨quote, inside, hquote, hbody, rfl⟩ := h
  obtain ⟨hscan, havoids⟩ : _ ∧ Avoids mark _ _ := scan_literalBody hquote hbody depth
  have hnext : ListState.next (.outside, depth) quote = (.inside quote, depth) := by
    rcases hquote with rfl | rfl <;> rfl
  rw [List.cons_append, scan_cons, Avoids, hnext]
  exact ⟨hscan, fun ⟨heq, _⟩ => hmark (heq ▸ hquote), havoids⟩

/-- A scanner goes over a text as over its characters outside literals. -/
theorem HasCode.scan_eq (h : HasCode text code) (depth : Nat) :
    scan (.outside, depth) text = scan (.outside, depth) code := by
  induction h generalizing depth with
  | nil => rfl
  | char hc _ ih => rw [scan_cons, scan_cons, next_of_not_isQuoteMark hc, ih]
  | literal hliteral _ ih =>
      rw [scan_append, (scan_literal (show ¬ IsQuoteMark ',' by decide) hliteral depth).1, ih]

theorem HasCode.avoids_iff (h : HasCode text code) (hmark : ¬ IsQuoteMark mark) (depth : Nat) :
    Avoids mark (.outside, depth) text ↔ Avoids mark (.outside, depth) code := by
  induction h generalizing depth with
  | nil => exact Iff.rfl
  | char hc _ ih => rw [Avoids, Avoids, next_of_not_isQuoteMark hc, ih]
  | literal hliteral _ ih =>
      obtain ⟨hscan, havoids⟩ := scan_literal hmark hliteral depth
      rw [avoids_append, hscan, ih, and_iff_right havoids]

/-- A literal that a scanner leaves is one. -/
theorem exists_literalBody (hquote : IsQuoteMark quote)
    (h : (Literal.inside quote).behind text = .outside) : ∃ inside rest,
      text = inside ++ quote :: rest ∧ Dump.isLiteralBody quote inside = true ∧
        Literal.outside.behind rest = .outside := by
  fun_induction Dump.isLiteralBody quote text with
  | case1 => cases h
  | case2 c text ih =>
    obtain ⟨inside, rest, rfl, hbody, hrest⟩ := ih h
    exact ⟨'\\' :: c :: inside, rest, rfl, hbody, hrest⟩
  | case3 c text hescape ih =>
    rw [Literal.behind_cons] at h
    by_cases hslash : c = '\\'
    · -- a backslash at the end leaves the literal open
      subst hslash
      cases text with
      | nil => cases h
      | cons d text => exact absurd rfl (hescape d text rfl)
    · by_cases hc : c = quote
      · subst hc
        rw [Literal.next_closing hquote] at h
        exact ⟨[], text, rfl, rfl, h⟩
      · have hnext : (Literal.inside quote).next c = .inside quote := by
          simp [Literal.next, hslash, hc]
        rw [hnext] at h
        obtain ⟨inside, rest, rfl, hbody, hrest⟩ := ih h
        refine ⟨c :: inside, rest, rfl, ?_, hrest⟩
        rw [Dump.isLiteralBody]
        · simp [hc, hslash, hbody]
        · exact fun _ _ heq => absurd heq hslash

/-- A text behind which a scanner is outside literals leaves none open. -/
theorem exists_hasCode (h : Literal.outside.behind text = .outside) :
    ∃ code, HasCode text code := by
  induction hn : text.length using Nat.strong_induction_on generalizing text with
  | _ n ih =>
      cases text with
      | nil => exact ⟨[], .nil⟩
      | cons c text =>
          rw [Literal.behind_cons] at h
          rw [List.length_cons] at hn
          by_cases hc : IsQuoteMark c
          · rw [Literal.next_quote hc] at h
            obtain ⟨inside, rest, rfl, hbody, hrest⟩ := exists_literalBody hc h
            rw [List.length_append, List.length_cons] at hn
            obtain ⟨code, hcode⟩ := ih rest.length (by omega) hrest rfl
            have hliteral : Dump.IsLiteral (c :: inside ++ [c]) := ⟨c, inside, hc, hbody, rfl⟩
            exact ⟨code, by simpa using HasCode.literal hliteral hcode⟩
          · rw [Literal.next_outside hc] at h
            obtain ⟨code, hcode⟩ := ih text.length (by omega) h rfl
            exact ⟨c :: code, .char hc hcode⟩

/-! ## Counting -/

/-- Parentheses that match: no beginning closes more than it opens, and nothing is left open. -/
structure Balances (code : Text) : Prop where
  within : ∀ front, front <+: code → front.count ')' ≤ front.count '('
  whole : code.count ')' = code.count '('

instance (code : Text) : Decidable (Balances code) :=
  decidable_of_iff ((∀ front ∈ code.inits, front.count ')' ≤ front.count '(') ∧
      code.count ')' = code.count '(')
    ⟨fun h => ⟨fun front hfront => h.1 front ((List.mem_inits ..).mpr hfront), h.2⟩,
      fun h => ⟨fun front hfront => h.within front ((List.mem_inits ..).mp hfront), h.whole⟩⟩

/-- Commas stand in parentheses only. -/
def EnclosesCommas (code : Text) : Prop :=
  ∀ front, front ++ [','] <+: code → front.count ')' < front.count '('

instance (code : Text) : Decidable (EnclosesCommas code) :=
  decidable_of_iff (∀ front ∈ code.inits,
      front ++ [','] <+: code → front.count ')' < front.count '(')
    ⟨fun h front hfront =>
        h front ((List.mem_inits ..).mpr ((List.prefix_append front [',']).trans hfront)) hfront,
      fun h front _ hfront => h front hfront⟩

/-- A text whose parentheses outside literals match. -/
def IsBalanced (text : Text) : Prop := ∃ code, HasCode text code ∧ Balances code

/-- How deep a scanner is behind a beginning is told by counting, as long as nothing closes what
was opened in front. -/
theorem scan_of_avoids (hcode : HasNoQuotes code) {depth : Nat}
    (h : Avoids ')' (.outside, depth) code) : ∃ behind, scan (.outside, depth) code =
      (.outside, behind) ∧ behind + code.count ')' = depth + code.count '(' := by
  induction code generalizing depth with
  | nil => exact ⟨depth, rfl, rfl⟩
  | cons c code ih =>
      obtain ⟨hc, hmore⟩ := List.forall_mem_cons.mp hcode
      obtain ⟨hclose, hopen⟩ := h
      rw [next_of_not_isQuoteMark hc] at hopen
      obtain ⟨behind, hscan, hcount⟩ := ih hmore hopen
      refine ⟨behind, by rw [scan_cons, next_of_not_isQuoteMark hc, hscan], ?_⟩
      rw [List.count_cons, List.count_cons]
      by_cases hleft : c = '('
      · subst hleft
        simp [depthAfter] at hcount ⊢
        omega
      · by_cases hright : c = ')'
        · subst hright
          simp [depthAfter] at hcount hclose ⊢
          omega
        · simpa [depthAfter, hleft, hright] using hcount

/-- A beginning of a text with one more character in front. -/
theorem forall_prefix_cons {α : Type} {a : α} {items : List α} {motive : List α → Prop} :
    (∀ front, front <+: a :: items → motive front) ↔
      motive [] ∧ ∀ front, front <+: items → motive (a :: front) := by
  constructor
  · intro h
    exact ⟨h [] List.nil_prefix, fun front hfront => h _ ((List.prefix_cons_inj a).mpr hfront)⟩
  · rintro ⟨hnil, hcons⟩ front hfront
    rcases List.prefix_cons_iff.mp hfront with rfl | ⟨more, rfl, hmore⟩
    · exact hnil
    · exact hcons more hmore

/-- A scanner stays open just if no beginning closes more than is open in front of it. -/
theorem avoids_closing_iff (hcode : HasNoQuotes code) {depth : Nat} :
    Avoids ')' (.outside, depth) code ↔
      ∀ front, front <+: code → front.count ')' ≤ depth + front.count '(' := by
  induction code generalizing depth with
  | nil => simp [Avoids]
  | cons c code ih =>
      obtain ⟨hc, hmore⟩ := List.forall_mem_cons.mp hcode
      rw [Avoids, next_of_not_isQuoteMark hc, ih hmore, forall_prefix_cons]
      by_cases hleft : c = '('
      · subst hleft
        have hcount (front : Text) : front.count ')' ≤ depth + 1 + front.count '(' ↔
            front.count ')' ≤ depth + (front.count '(' + 1) := by omega
        simp [depthAfter, hcount]
      · by_cases hright : c = ')'
        · subst hright
          simp only [depthAfter, List.count_cons]
          simp
          constructor
          · rintro ⟨hdepth, h⟩ front hfront
            have hcount := h front hfront
            omega
          · intro h
            have hnil := h [] List.nil_prefix
            simp at hnil
            refine ⟨by omega, fun front hfront => ?_⟩
            have hcount := h front hfront
            omega
        · simp [depthAfter, hleft, hright]

/-- A scanner that stays open is deep in parentheses where more of them is open than closed. -/
theorem avoids_comma_iff (hcode : HasNoQuotes code) (h : Avoids ')' .start code) :
    Avoids ',' .start code ↔ EnclosesCommas code := by
  rw [avoids_iff_forall]
  refine forall₂_congr fun front hfront => ?_
  obtain ⟨back, rfl⟩ := (List.prefix_append front [',']).trans hfront
  obtain ⟨depth, hscan, hcount⟩ := scan_of_avoids (fun c hc => hcode c (by simp [hc]))
    (avoids_append.mp h).1
  rw [ListState.start, hscan]
  simp only [ne_eq, Prod.mk.injEq, true_and]
  omega

end

/-- A text may stand between parentheses just if it is balanced. -/
theorem isEnclosed_iff_isBalanced {text : Text} : IsEnclosed text ↔ IsBalanced text := by
  have hmark : ¬ IsQuoteMark ')' := by decide
  constructor
  · rintro ⟨hopen, hscan⟩
    have houtside := fst_scan .start text
    rw [hscan] at houtside
    obtain ⟨code, hcode⟩ := exists_hasCode houtside.symm
    rw [staysOpen_iff_avoids, ListState.start, hcode.avoids_iff hmark] at hopen
    rw [ListState.start, hcode.scan_eq] at hscan
    obtain ⟨behind, hbehind, hcount⟩ := scan_of_avoids hcode.hasNoQuotes hopen
    obtain rfl : behind = 0 := congrArg Prod.snd (hbehind.symm.trans hscan)
    refine ⟨code, hcode, fun front hfront => ?_, by simpa using hcount⟩
    simpa using (avoids_closing_iff hcode.hasNoQuotes).mp hopen front hfront
  · rintro ⟨code, hcode, hbalances⟩
    have hopen : Avoids ')' (.outside, 0) code := by
      refine (avoids_closing_iff hcode.hasNoQuotes).mpr fun front hfront => ?_
      simpa using hbalances.within front hfront
    obtain ⟨behind, hbehind, hcount⟩ := scan_of_avoids hcode.hasNoQuotes hopen
    obtain rfl : behind = 0 := by
      have hwhole := hbalances.whole
      omega
    refine ⟨?_, ?_⟩
    · rwa [staysOpen_iff_avoids, ListState.start, hcode.avoids_iff hmark]
    · rw [ListState.start, hcode.scan_eq, hbehind]

/-! ## Reading -/

/-- What stands between a parenthesis in front and the one that matches it is balanced, and where
something balanced stands between parentheses, it is what is read; nothing is read where there is
nothing of the sort. -/
theorem parenthesised?_eq_some_iff_isBalanced (text : Text) :
    (∀ inner rest, parenthesised? text = some (inner, rest) ↔
      IsBalanced inner ∧ ∃ behind, text = '(' :: inner ++ ')' :: behind ∧ rest = trim behind) ∧
    (parenthesised? text = none ↔
      ¬ ∃ inner behind, IsBalanced inner ∧ text = '(' :: inner ++ ')' :: behind) := by
  have hread (inner rest : Text) : parenthesised? text = some (inner, rest) ↔
      IsBalanced inner ∧ ∃ behind, text = '(' :: inner ++ ')' :: behind ∧ rest = trim behind := by
    rw [parenthesised?_eq_some, isEnclosed_iff_isBalanced]
  refine ⟨hread, ?_⟩
  rw [Option.eq_none_iff_forall_ne_some]
  constructor
  · rintro hnone ⟨inner, behind, hinner, htext⟩
    exact hnone (inner, trim behind) ((hread _ _).mpr ⟨hinner, behind, htext, rfl⟩)
  · rintro hnone ⟨inner, rest⟩ hsome
    obtain ⟨hinner, behind, htext, -⟩ := (hread _ _).mp hsome
    exact hnone ⟨inner, behind, hinner, htext⟩

example : parenthesised? "(a ')\\'(', (b)) c ".toList =
    some ("a ')\\'(', (b)".toList, "c".toList) := by
  decide

/-! ## Lists -/

/-- A text that may stand between the commas of a list: it is balanced, has no blanks at its ends,
and none of its commas stands outside literals and parentheses. -/
structure IsListPart (part : Text) : Prop where
  ne_nil : part ≠ []
  first : ∀ c ∈ part.head?, isBlank c = false
  last : ∀ c ∈ part.getLast?, isBlank c = false
  exists_code : ∃ code, HasCode part code ∧ Balances code ∧ EnclosesCommas code

/-- No comma parts such a text, and behind it the next one may begin. -/
theorem IsListPart.isWhole {part : Text} (h : IsListPart part) :
    IsWhole .start part ∧ scan .start part = .start := by
  obtain ⟨code, hcode, hbalances, hcommas⟩ := h.exists_code
  have henclosed := isEnclosed_iff_isBalanced.mpr ⟨code, hcode, hbalances⟩
  refine ⟨?_, henclosed.scan_eq⟩
  have hopen := henclosed.staysOpen
  rw [staysOpen_iff_avoids, ListState.start, hcode.avoids_iff (by decide)] at hopen
  rw [isWhole_iff_avoids, ListState.start, hcode.avoids_iff (by decide)]
  exact (avoids_comma_iff hcode.hasNoQuotes hopen).mpr hcommas

theorem isList_of_isListPart {part : Text} {parts : List Text}
    (h : ∀ other ∈ part :: parts, IsListPart other) : IsList .start (part :: parts) := by
  induction parts generalizing part with
  | nil => exact .last (h part (by simp)).isWhole.1
  | cons next parts ih =>
      obtain ⟨hpart, hmore⟩ := List.forall_mem_cons.mp h
      obtain ⟨hwhole, hend⟩ := hpart.isWhole
      exact .more hwhole hend (ih hmore)

/-- The items of any list, written with commas, are read as themselves, and so is every list of
texts that may stand between commas. -/
theorem listItems_join_listParts (text : Text) {parts : List Text}
    (h : ∀ part ∈ parts, IsListPart part) :
    listItems (join "," (listItems text)) = listItems text ∧
      listItems (join "," parts) = parts := by
  refine ⟨listItems_join_listItems text, listItems_join_of_isList ?_ fun part hpart => ?_⟩
  · cases parts with
    | nil => exact .inl rfl
    | cons part parts => exact .inr (isList_of_isListPart h)
  · have hitem := h part hpart
    exact ⟨trim_eq_self hitem.first hitem.last, hitem.ne_nil⟩

/-- A call with a parenthesis in a literal, and a literal with a quote in it; and a text that closes
more than it opens, lacks an item and leaves a literal open. -/
theorem listItems_join_call :
    listItems (join "," (listItems "a),, (b, 'c ")) = listItems "a),, (b, 'c " ∧
      listItems (join "," ["f(a, ',)')", "'it\\'s, ('"]) = ["f(a, ',)')", "'it\\'s, ('"] := by
  have hfront : HasCode "f(a, " "f(a, " := hasCode_self (by decide)
  have hback : HasCode ")" ")" := hasCode_self (by decide)
  have hmark : Dump.IsLiteral "',)'" := ⟨'\x27', ",)".toList, .inl rfl, by decide, rfl⟩
  have hquoted : Dump.IsLiteral "'it\\'s, ('" :=
    ⟨'\x27', "it\\'s, (".toList, .inl rfl, by decide, rfl⟩
  refine listItems_join_listParts _ fun part hpart => ?_
  simp only [List.mem_cons, List.not_mem_nil, or_false] at hpart
  rcases hpart with rfl | rfl
  · exact ⟨by decide, by decide, by decide, _, hfront.append (.literal hmark hback), by decide,
      by decide⟩
  · exact ⟨by decide, by decide, by decide, _, .literal hquoted .nil, by decide, by decide⟩

end SchemaMigration
