import Mathlib.Data.List.DropRight
import SchemaMigration.Dump.Comment
import SchemaMigration.Proofs.Text.Recogniser

/-!
# Readers of block comments

Settings, executable comments and other block comments are read alike: the comment reaches to the
first closing mark, something is looked for at the beginning of its inside, and if that is there,
a text takes the place of the comment and of what goes together with it. So the three readers
differ in no more than what they look for, what they put in its place and what they take along.

## Main Definitions

* `CommentReader` - what a reader of block comments is made of
* `CommentReader.read` - what it reads at the beginning of a text
* `settings`, `executables`, `blocks` - the three readers
* `settingComment?_eq`, `executableComment?_eq`, `blockComment?_eq` - what they read

## Design Notes

The recognisers look for the closing mark behind what they found. That is the first one of the
comment all the same: nothing that they look for has an asterisk.
-/

namespace SchemaMigration.Dump

open Text

/-- The mark that opens a block comment. -/
def openingMark : Text := ['/', '*']

/-- The mark that closes a block comment. -/
def closingMark : Text := ['*', '/']

/-- A block comment with the given inside. -/
def blockText (inside : Text) : Text := openingMark ++ inside ++ closingMark

/-- An opening mark at the beginning of a text. -/
theorem openingMark_prefix_cons {c : Char} {text : Text} :
    openingMark <+: c :: text ↔ c = '/' ∧ text.head? = some '*' := by
  cases text with
  | nil => simp [openingMark]
  | cons d text => simp [openingMark, eq_comm]

/-- Behind a text without a closing mark the first one is looked for in what follows. -/
theorem splitAtFirst?_append {front rest : Text} (h : ¬ closingMark <:+: front)
    (hrest : rest.head? ≠ some '/') : splitAtFirst? closingMark (front ++ rest)
      = (splitAtFirst? closingMark rest).map fun parts => (front ++ parts.1, parts.2) := by
  induction front with
  | nil => simp
  | cons c front ih =>
      rw [List.infix_cons_iff, not_or] at h
      have hnone : after? closingMark (c :: (front ++ rest)) = none := by
        refine after?_eq_none fun hbegins => ?_
        cases front with
        | nil =>
            obtain ⟨behind, hbehind⟩ := hbegins
            obtain ⟨-, rfl⟩ := List.cons.inj hbehind
            exact hrest rfl
        | cons d front => exact h.1 (by simpa [closingMark] using hbegins)
      rw [List.cons_append, splitAtFirst?, hnone, ih h.2]
      cases splitAtFirst? closingMark rest <;> rfl

/-- A closing mark is found behind an inside without one. -/
theorem splitAtFirst?_closingMark {inside : Text} (h : ¬ closingMark <:+: inside) (rest : Text) :
    splitAtFirst? closingMark (inside ++ closingMark ++ rest) = some (inside, rest) := by
  rw [List.append_assoc, splitAtFirst?_append h (by simp [closingMark])]
  simp [closingMark, splitAtFirst?, after?]

/-! ## What goes together with a comment -/

/-- Whether a character may go together with a comment in front of it. -/
def isCommentTail (c : Char) : Bool := c == ' ' || c == '\t' || c == ';'

/-- A text of spaces and tabs. -/
def IsSpaces (text : Text) : Prop := ∀ c ∈ text, c = ' ' ∨ c = '\t'

/-- What comments in front of the text do not reach into. -/
def IsFence (text : Text) : Prop :=
  ∀ c ∈ text.head?, isCommentTail c = false ∧ c ≠ '*' ∧ c ≠ '/'

theorem isFence_nil : IsFence [] := by simp [IsFence]

theorem isFence_cons {c : Char} {text : Text} :
    IsFence (c :: text) ↔ isCommentTail c = false ∧ c ≠ '*' ∧ c ≠ '/' := by
  simp [IsFence]

theorem IsSpaces.of_suffix {pad rest : Text} (h : IsSpaces pad) (hrest : rest <:+ pad) :
    IsSpaces rest :=
  fun c hc => h c (hrest.mem hc)

/-- Spaces do not begin with any other character. -/
theorem IsSpaces.head?_ne {pad : Text} (h : IsSpaces pad) {c : Char} (hspace : c ≠ ' ')
    (htab : c ≠ '\t') : pad.head? ≠ some c := by
  intro hc
  rcases h c (List.mem_of_mem_head? hc) with rfl | rfl
  · exact hspace rfl
  · exact htab rfl

/-- What takes characters away behind a comment. -/
structure IsSkip (skip : Text → Text) : Prop where
  exists_eaten : ∀ text, ∃ eaten, (∀ c ∈ eaten, isCommentTail c = true) ∧ text = eaten ++ skip text
  append : ∀ text rest, IsFence rest → skip (text ++ rest) = skip text ++ rest
  append_spaces : ∀ text pad, IsSpaces pad → ∃ rest, rest <:+ pad ∧
    skip (text ++ pad) = skip text ++ rest

theorem IsSkip.suffix {skip : Text → Text} (h : IsSkip skip) (text : Text) :
    skip text <:+ text := by
  obtain ⟨eaten, -, heq⟩ := h.exists_eaten text
  exact ⟨eaten, heq.symm⟩

theorem isSkip_id : IsSkip id where
  exists_eaten text := ⟨[], by simp, rfl⟩
  append _ _ _ := rfl
  append_spaces _ pad _ := ⟨pad, List.suffix_rfl, rfl⟩

theorem isSkip_skipSpaces : IsSkip skipSpaces where
  exists_eaten text := by
    refine ⟨text.takeWhile fun c => c == ' ' || c == '\t', ?_,
      (List.takeWhile_append_dropWhile).symm⟩
    intro c hc
    simp [isCommentTail, List.mem_takeWhile_imp hc]
  append text rest hrest := by
    rw [skipSpaces, List.dropWhile_append]
    split
    · rename_i hnil
      rw [skipSpaces, List.isEmpty_iff.mp hnil, List.nil_append]
      cases rest with
      | nil => rfl
      | cons c rest =>
          have hc := (isFence_cons.mp hrest).1
          simp_all [isCommentTail]
    · rfl
  append_spaces text pad hpad := by
    rw [skipSpaces, List.dropWhile_append]
    split
    · rename_i hnil
      have hgone : pad.dropWhile (fun c => c == ' ' || c == '\t') = [] := by
        rw [List.dropWhile_eq_nil_iff]
        intro c hc
        simpa using hpad c hc
      exact ⟨[], List.nil_suffix, by rw [hgone, skipSpaces, List.isEmpty_iff.mp hnil]; rfl⟩
    · exact ⟨pad, List.suffix_rfl, rfl⟩

/-- What goes together with a setting: spaces, a semicolon and more spaces. -/
def skipEnd (text : Text) : Text :=
  skipSpaces ((after? ";" (skipSpaces text)).getD (skipSpaces text))

theorem skipEnd_cases (text : Text) :
    (∃ rest, skipSpaces text = ';' :: rest ∧ skipEnd text = skipSpaces rest) ∨
      (skipSpaces text).head? ≠ some ';' ∧ skipEnd text = skipSpaces text := by
  have hagain : skipSpaces (skipSpaces text) = skipSpaces text := List.dropWhile_idempotent ..
  rw [skipEnd]
  cases hmid : skipSpaces text with
  | nil => exact .inr ⟨by simp, rfl⟩
  | cons c rest =>
      by_cases hc : c = ';'
      · exact .inl ⟨rest, by rw [hc], by simp [after?, hc]⟩
      · refine .inr ⟨by simpa using hc, ?_⟩
        rw [← hmid]
        have hnone : after? ";" (skipSpaces text) = none :=
          after?_eq_none (by simp [hmid, Ne.symm hc])
        rw [hnone]
        exact hagain

theorem isSkip_skipEnd : IsSkip skipEnd where
  exists_eaten text := by
    obtain ⟨eaten, heaten, heq⟩ := isSkip_skipSpaces.exists_eaten text
    rcases skipEnd_cases text with ⟨rest, hrest, hskip⟩ | ⟨-, hskip⟩
    · obtain ⟨more, hmore, hmoreEq⟩ := isSkip_skipSpaces.exists_eaten rest
      refine ⟨eaten ++ ';' :: more, ?_, ?_⟩
      · intro c hc
        rcases List.mem_append.mp hc with hc | hc
        · exact heaten c hc
        · rcases List.mem_cons.mp hc with rfl | hc
          · decide
          · exact hmore c hc
      · rw [hskip, List.append_assoc, List.cons_append, ← hmoreEq, ← hrest]
        exact heq
    · exact ⟨eaten, heaten, by rw [hskip]; exact heq⟩
  append text rest hrest := by
    have happend := isSkip_skipSpaces.append text rest hrest
    rcases skipEnd_cases text with ⟨back, hback, hskip⟩ | ⟨hhead, hskip⟩
    · rw [hskip, ← isSkip_skipSpaces.append _ _ hrest, skipEnd, happend, hback]
      simp [after?]
    · have hsemicolon : (skipSpaces (text ++ rest)).head? ≠ some ';' := by
        rw [happend, List.head?_append]
        cases hmid : (skipSpaces text).head? with
        | some c => simpa [hmid] using hhead
        | none =>
            intro hc
            have htail := (hrest ';' (by simpa using hc)).1
            simp [isCommentTail] at htail
      rcases skipEnd_cases (text ++ rest) with ⟨back, hback, -⟩ | ⟨-, hwhole⟩
      · simp [hback] at hsemicolon
      · rw [hwhole, happend, hskip]
  append_spaces text pad hpad := by
    obtain ⟨rest, hrest, happend⟩ := isSkip_skipSpaces.append_spaces text pad hpad
    have hspaces : IsSpaces rest := hpad.of_suffix hrest
    rcases skipEnd_cases text with ⟨back, hback, hskip⟩ | ⟨hhead, hskip⟩
    · obtain ⟨more, hmore, hmoreEq⟩ := isSkip_skipSpaces.append_spaces back rest hspaces
      refine ⟨more, hmore.trans hrest, ?_⟩
      rw [hskip, ← hmoreEq, skipEnd, happend, hback]
      simp [after?]
    · refine ⟨rest, hrest, ?_⟩
      have hsemicolon : (skipSpaces (text ++ pad)).head? ≠ some ';' := by
        rw [happend, List.head?_append]
        cases hmid : (skipSpaces text).head? with
        | some c => simpa [hmid] using hhead
        | none => simpa using hspaces.head?_ne (by decide) (by decide)
      rcases skipEnd_cases (text ++ pad) with ⟨back, hback, -⟩ | ⟨-, hwhole⟩
      · simp [hback] at hsemicolon
      · rw [hwhole, happend, hskip]

/-! ## What is looked for in a comment -/

/-- The closing mark is the first one, whether it is looked for at once or behind what is found. -/
theorem bind_splitAtFirst? {find : Text → Option Text} (h : StopsAt '*' find)
    (text : Text) : (find text).bind (splitAtFirst? closingMark)
      = (splitAtFirst? closingMark text).bind fun parts =>
          (find parts.1).map fun found => (found, parts.2) := by
  cases hparts : splitAtFirst? closingMark text with
  | none =>
      have hclosing := (splitAtFirst?_eq_none (by decide)).mp hparts
      cases hfound : find text with
      | none => rfl
      | some found =>
          have hsuffix := h.suffix text found hfound
          exact (splitAtFirst?_eq_none (by decide)).mpr
            fun hoccurs => hclosing (hoccurs.trans hsuffix.isInfix)
  | some parts =>
      obtain ⟨inside, rest⟩ := parts
      obtain ⟨rfl, hclosing⟩ := eq_append_of_splitAtFirst? (by decide) hparts
      -- what is looked for ends in front of the asterisk of the closing mark
      have hfind : find (inside ++ closingMark ++ rest)
          = (find inside).map (· ++ closingMark ++ rest) := by
        simpa [closingMark] using h.append inside ('/' :: rest)
      rw [hfind, Option.bind_some]
      cases hfound : find inside with
      | none => rfl
      | some found =>
          have hsuffix := h.suffix inside found hfound
          exact splitAtFirst?_closingMark
            (fun hoccurs => hclosing (hoccurs.trans hsuffix.isInfix)) rest

/-! ## The readers -/

/-- What a reader of block comments is made of. -/
structure CommentReader where
  /-- What is left of the inside behind what makes it a comment of the kind. -/
  find : Text → Option Text
  /-- What takes the place of the comment. -/
  place : Text → Text
  /-- What is left behind the comment. -/
  skip : Text → Text
  stopsAtStar : StopsAt '*' find
  place_eq : (∀ found, place found = []) ∨ ∀ found, place found = '\n' :: found
  isSkip : IsSkip skip

namespace CommentReader

variable (reader : CommentReader)

/-- The block comment at the beginning of a text, if it is of the kind. -/
def read (text : Text) : Option (Text × Text) :=
  (after? openingMark text).bind fun opened =>
    (splitAtFirst? closingMark opened).bind fun parts =>
      (reader.find parts.1).map fun found => (reader.place found, reader.skip parts.2)

/-- The text with every block comment of the kind replaced. -/
def pass (text : Text) : Text := replaceMatches (fun _ => reader.read) text

/-- Nothing is read but at an opening mark. -/
theorem read_eq_none {text : Text} (h : ¬ openingMark <+: text) : reader.read text = none := by
  rw [read, after?_eq_none h, Option.bind_none]

/-- What is read at an opening mark. -/
theorem read_opened (opened : Text) : reader.read (openingMark ++ opened)
    = (splitAtFirst? closingMark opened).bind fun parts =>
        (reader.find parts.1).map fun found => (reader.place found, reader.skip parts.2) := by
  rw [read, after?_self_append, Option.bind_some]

/-- It does not matter whether the closing mark is looked for before or behind what makes the
comment one of the kind. -/
theorem read_eq (text : Text) : reader.read text
    = (after? openingMark text).bind fun opened =>
        ((reader.find opened).bind (splitAtFirst? closingMark)).map fun parts =>
          (reader.place parts.1, reader.skip parts.2) := by
  simp only [read, bind_splitAtFirst? reader.stopsAtStar, Option.map_eq_bind, Option.bind_assoc]
  rfl

/-- What is read at a block comment. -/
theorem read_blockText {inside : Text} (h : ¬ closingMark <:+: inside) (rest : Text) :
    reader.read (blockText inside ++ rest)
      = (reader.find inside).map fun found => (reader.place found, reader.skip rest) := by
  rw [blockText, List.append_assoc, List.append_assoc, read_opened, ← List.append_assoc,
    splitAtFirst?_closingMark h, Option.bind_some]

/-- What is put in the place of a comment has no mark that the comment has not. -/
theorem not_openingMark_place {inside found : Text} (h : reader.find inside = some found)
    (hopening : ¬ openingMark <:+: inside) : ¬ openingMark <:+: reader.place found := by
  rcases reader.place_eq with hplace | hplace
  · simp [hplace, openingMark]
  · rw [hplace, List.infix_cons_iff, not_or, openingMark_prefix_cons]
    have hsuffix := reader.stopsAtStar.suffix inside found h
    exact ⟨by simp, fun hoccurs => hopening (hoccurs.trans hsuffix.isInfix)⟩

/-- What is put in the place of a comment is shorter. -/
theorem length_place_lt {inside found : Text} (h : reader.find inside = some found) :
    (reader.place found).length < (blockText inside).length := by
  have hfound := (reader.stopsAtStar.suffix inside found h).length_le
  rcases reader.place_eq with hplace | hplace <;>
    simp only [hplace, blockText, openingMark, closingMark, List.length_append, List.length_cons,
      List.length_nil] <;> omega

/-- What is read takes characters away, and more than are put in their place. -/
theorem of_read_eq_some {text payload rest : Text} (h : reader.read text = some (payload, rest)) :
    rest <:+ text.tail ∧ payload.length + rest.length < text.length := by
  rw [read] at h
  obtain ⟨opened, hopened, hread⟩ := Option.bind_eq_some_iff.mp h
  obtain ⟨⟨inside, behind⟩, hparts, hread⟩ := Option.bind_eq_some_iff.mp hread
  obtain ⟨found, hfound, heq⟩ := Option.map_eq_some_iff.mp hread
  obtain ⟨rfl, rfl⟩ := Prod.mk.inj heq
  obtain rfl := eq_append_of_after? hopened
  obtain ⟨rfl, -⟩ := eq_append_of_splitAtFirst? (by decide) hparts
  have hplace := reader.length_place_lt hfound
  have hskip := reader.isSkip.suffix behind
  refine ⟨hskip.trans ⟨'*' :: inside ++ closingMark, by simp [openingMark]⟩, ?_⟩
  have hlength := hskip.length_le
  simp only [blockText, List.length_append] at hplace ⊢
  omega

/-- A pass shortens a text or leaves it as it is. -/
theorem shortens_pass : Shortens reader.pass :=
  shortens_replaceMatches fun _ _ _ => reader.of_read_eq_some

/-- Where nothing is read, a character stays. -/
theorem pass_cons {c : Char} {text : Text} (h : reader.read (c :: text) = none) :
    reader.pass (c :: text) = c :: reader.pass text :=
  replaceMatches_cons h

/-- A comment of the kind is replaced. -/
theorem pass_of_read {text payload rest : Text}
    (h : reader.read text = some (payload, rest)) :
    reader.pass text = payload ++ reader.pass rest := by
  cases text with
  | nil => simp [read, openingMark, after?] at h
  | cons c text => exact replaceMatches_of_some h (reader.of_read_eq_some h).1

end CommentReader

/-- The value that the inside of a comment sets, if it sets one. -/
def settingValue? (inside : Text) : Option Text :=
  ((((after? "!" inside).bind digits?).bind blanks?).bind (keyword? "SET")).bind blanks?

/-- The statement text of an executable comment. -/
def executableText? (inside : Text) : Option Text :=
  ((after? "!" inside).bind fun code => some (code.dropWhile isDigit)).bind
    fun code => some (trimLeft code)

/-- The reader of settings. -/
def settings : CommentReader where
  find := settingValue?
  place _ := []
  skip := skipEnd
  stopsAtStar := ((((stopsAt_after? (by decide)).bind (stopsAt_digits? (by decide))).bind
    (stopsAt_blanks? (by decide))).bind (stopsAt_keyword? (by decide))).bind
      (stopsAt_blanks? (by decide))
  place_eq := .inl fun _ => rfl
  isSkip := isSkip_skipEnd

/-- The reader of executable comments. -/
def executables : CommentReader where
  find := executableText?
  place code := '\n' :: code
  skip := id
  stopsAtStar := ((stopsAt_after? (by decide)).bind (stopsAt_dropWhile (by decide))).bind
    (stopsAt_dropWhile (by decide))
  place_eq := .inr fun _ => rfl
  isSkip := isSkip_id

/-- The reader of all block comments. -/
def blocks : CommentReader where
  find := some
  place _ := []
  skip := skipSpaces
  stopsAtStar := stopsAt_some
  place_eq := .inl fun _ => rfl
  isSkip := isSkip_skipSpaces

theorem settingComment?_eq : settingComment? = settings.read := by
  funext text
  have hmark : ("/*!" : Text) = openingMark ++ ("!" : Text) := rfl
  rw [CommentReader.read_eq]
  simp only [settingComment?, hmark, after?_append, settings, settingValue?, Option.bind_eq_bind,
    Option.bind_assoc, Option.map_eq_bind]
  rfl

theorem executableComment?_eq : executableComment? = executables.read := by
  funext text
  have hmark : ("/*!" : Text) = openingMark ++ ("!" : Text) := rfl
  rw [CommentReader.read_eq]
  simp only [executableComment?, hmark, after?_append, executables, executableText?,
    Option.bind_eq_bind, Option.bind_assoc, Option.map_eq_bind]
  rfl

theorem blockComment?_eq : blockComment? = blocks.read := rfl

end SchemaMigration.Dump
