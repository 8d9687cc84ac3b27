import SchemaMigration.Dump.Definition
import SchemaMigration.Proofs.Text.Piece
import SchemaMigration.Proofs.Text.Recogniser

/-!
# Statements that drop objects

A statement is read twice: once for what it does and to what kind of object, and, if it drops
objects, once more for the name. Both readings agree on the kind. But the second one stops at the
first name of a list, and it finds none where `TEMPORARY` stands, which only the first reading
passes over.

## Main Definitions

* `Definition.dense`, `Definition.IgnoresBlankLines` - blank lines do not matter for the name
* `Definition.DropsListed` - a statement that drops a list of tables or views
* `Definition.subject?_of_phrase`, `Definition.nameOfDrop?_of_phrase` - its two readings
* `Definition.DropsListed.ofStatement?` - the definition that it is
-/

namespace SchemaMigration

open Text

namespace Definition

/-! ## Blank lines -/

/-- A text without the blank lines inside it. -/
def dense (text : Text) : Text := replaceMatches (fun _ => blankLines?) text

@[simp] theorem dense_nil : dense [] = [] := rfl

theorem dense_cons {c : Char} (hc : c ≠ '\n') (text : Text) : dense (c :: text) = c :: dense text :=
  replaceMatches_cons (by
    unfold blankLines?
    split
    · rename_i heq
      exact absurd (List.cons.inj heq).1 hc
    · rfl)

/-- Behind a newline, blank lines may go. -/
theorem dense_newline (text : Text) : ∃ rest, trimLeft rest = trimLeft text ∧
    rest.length ≤ text.length ∧ dense ('\n' :: text) = '\n' :: dense rest := by
  have hfound : blankLines? ('\n' :: text)
      = if (text.takeWhile isLineSpace).contains '\n' then
          some (['\n'], text.dropWhile isLineSpace) else none := rfl
  by_cases hblank : (text.takeWhile isLineSpace).contains '\n' = true
  · refine ⟨text.dropWhile isLineSpace, ?_, (List.dropWhile_suffix _).length_le, ?_⟩
    · conv_rhs => rw [← List.takeWhile_append_dropWhile (p := isLineSpace) (l := text)]
      refine (List.dropWhile_append_of_pos ?_).symm
      intro c hc
      have hspace : c = '\n' ∨ c = ' ' ∨ c = '\t' := by
        simpa [isLineSpace, or_assoc] using List.mem_takeWhile_imp hc
      rcases hspace with rfl | rfl | rfl <;> decide
    · rw [if_pos hblank] at hfound
      exact replaceMatches_of_some hfound (List.dropWhile_suffix _)
  · exact ⟨text, rfl, le_rfl, replaceMatches_cons (by rw [hfound, if_neg hblank])⟩

theorem trimLeft_dense (text : Text) : trimLeft (dense text) = dense (trimLeft text) := by
  induction hn : text.length using Nat.strong_induction_on generalizing text with
  | _ n ih =>
      cases text with
      | nil => rfl
      | cons c text =>
          by_cases hc : c = '\n'
          · subst hc
            obtain ⟨rest, htrim, hlength, hdense⟩ := dense_newline text
            have hrest := ih rest.length (by simp at hn; omega) rest rfl
            rw [hdense]
            simpa [trimLeft, htrim, show isBlank '\n' = true by decide] using
              hrest.trans (congrArg dense htrim)
          · have hrest := ih text.length (by simp at hn; omega) text rfl
            rw [dense_cons hc]
            cases hblank : isBlank c with
            | true => simpa [trimLeft, hblank] using hrest
            | false => simp [trimLeft, hblank, dense_cons hc]

/-- A recogniser that does not mind blank lines. -/
def IgnoresBlankLines (find : Text → Option Text) : Prop :=
  ∀ text, find (dense text) = (find text).map dense

theorem IgnoresBlankLines.bind {first second : Text → Option Text}
    (hfirst : IgnoresBlankLines first) (hsecond : IgnoresBlankLines second) :
    IgnoresBlankLines fun text => (first text).bind second := by
  intro text
  simp only [hfirst text]
  cases first text with
  | none => rfl
  | some rest => exact hsecond rest

theorem ignoresBlankLines_keyword? {keyword : Text}
    (h : ∀ letter ∈ keyword, spells letter '\n' = false) :
    IgnoresBlankLines (keyword? keyword) := by
  intro text
  induction keyword generalizing text with
  | nil => rfl
  | cons letter keyword ih =>
      cases text with
      | nil => rfl
      | cons c text =>
          by_cases hc : c = '\n'
          · subst hc
            obtain ⟨rest, -, -, hdense⟩ := dense_newline text
            simp [hdense, keyword?, h letter (by simp)]
          · rw [dense_cons hc, keyword?, keyword?]
            split
            · exact ih (fun other hother => h other (List.mem_cons_of_mem _ hother)) text
            · rfl

theorem ignoresBlankLines_anyKeyword? {keywords : List Text}
    (h : ∀ keyword ∈ keywords, ∀ letter ∈ keyword, spells letter '\n' = false) :
    IgnoresBlankLines (anyKeyword? keywords) := by
  intro text
  induction keywords with
  | nil => rfl
  | cons keyword keywords ih =>
      have hrest := ih fun other hother => h other (List.mem_cons_of_mem _ hother)
      have hkeyword := ignoresBlankLines_keyword? (h keyword (by simp)) text
      rw [anyKeyword?, List.findSome?_cons, hkeyword, anyKeyword?, List.findSome?_cons]
      cases keyword? keyword text with
      | none => exact hrest
      | some rest => rfl

theorem ignoresBlankLines_blanks? : IgnoresBlankLines blanks? := by
  intro text
  cases text with
  | nil => rfl
  | cons c text =>
      by_cases hc : c = '\n'
      · subst hc
        obtain ⟨rest, htrim, -, hdense⟩ := dense_newline text
        simp [hdense, blanks?, show isBlank '\n' = true by decide, trimLeft_dense, htrim]
      · rw [dense_cons hc, blanks?, blanks?, trimLeft_dense]
        split <;> rfl

theorem listedName?_dense (text : Text) : listedName? (dense text) = listedName? text := by
  have htake : (dense text).takeWhile (fun c => ! isBlank c && c != ';' && c != ',')
      = text.takeWhile fun c => ! isBlank c && c != ';' && c != ',' := by
    induction text with
    | nil => rfl
    | cons c text ih =>
        by_cases hc : c = '\n'
        · subst hc
          obtain ⟨rest, -, -, hdense⟩ := dense_newline text
          simp [hdense, show isBlank '\n' = true by decide]
        · rw [dense_cons hc, List.takeWhile_cons, List.takeWhile_cons, ih]
  rw [listedName?, listedName?, htake]

/-- The name behind the keywords for the kind of object. -/
def nameBehind? (text : Text) : Option Text :=
  ((keywords? ["IF", "EXISTS"] text).bind blanks?).bind listedName? <|> listedName? text

theorem nameOfDrop?_eq (text : Text) : nameOfDrop? text =
    ((((keyword? "DROP" (trimLeft text)).bind blanks?).bind (anyKeyword? ObjectKind.keywords)).bind
      blanks?).bind nameBehind? := by
  have hname : nameBehind? = fun text =>
      ((keywords? ["IF", "EXISTS"] text).bind blanks?).bind listedName? <|> listedName? text := rfl
  simp only [nameOfDrop?, hname, Option.bind_eq_bind, Option.bind_assoc]

/-- Blank lines do not matter for the name that is dropped. -/
theorem nameOfDrop?_dense (text : Text) : nameOfDrop? (dense text) = nameOfDrop? text := by
  have hkeywords : IgnoresBlankLines fun text =>
      (((keyword? "DROP" text).bind blanks?).bind (anyKeyword? ObjectKind.keywords)).bind blanks? :=
    (((ignoresBlankLines_keyword? (by decide)).bind ignoresBlankLines_blanks?).bind
      (ignoresBlankLines_anyKeyword? (by decide))).bind ignoresBlankLines_blanks?
  have hexists : IgnoresBlankLines fun text => (keywords? ["IF", "EXISTS"] text).bind blanks? :=
    ((ignoresBlankLines_keyword? (by decide)).bind
      (ignoresBlankLines_blanks?.bind (ignoresBlankLines_keyword? (by decide)))).bind
        ignoresBlankLines_blanks?
  have hname (text : Text) : nameBehind? (dense text) = nameBehind? text := by
    have hbehind := hexists text
    simp only at hbehind
    rw [nameBehind?, nameBehind?, hbehind, listedName?_dense]
    cases (keywords? ["IF", "EXISTS"] text).bind blanks? with
    | none => rfl
    | some rest => simp [listedName?_dense]
  have hbehind := hkeywords (trimLeft text)
  simp only at hbehind
  rw [nameOfDrop?_eq, nameOfDrop?_eq, trimLeft_dense, hbehind]
  cases (((keyword? "DROP" (trimLeft text)).bind blanks?).bind
    (anyKeyword? ObjectKind.keywords)).bind blanks? with
  | none => rfl
  | some rest => exact hname rest

/-! ## Statements that drop objects -/

/-- The names in a list that ends a statement. -/
def listedNames (list : Text) : List Text :=
  (splitWhere (· == ',') (dropTrailing ';' list)).map trim

/-- The characters of listed names. -/
def isListedCharacter (c : Char) : Bool := ! isBlank c && c != ';' && c != ','

/-- A name that may stand in a list. -/
def IsListed (name : Text) : Prop := name ≠ [] ∧ ∀ c ∈ name, isListedCharacter c = true

instance (name : Text) : Decidable (IsListed name) :=
  inferInstanceAs (Decidable (name ≠ [] ∧ ∀ c ∈ name, isListedCharacter c = true))

/-- A statement that drops the listed tables or views, with the keywords in any spelling that
stands for the kind. -/
def DropsListed (kind : ObjectKind) (isTemporary : Bool) (names : List Text) (statement : Text) :
    Prop :=
  (kind = .table ∨ kind = .view) ∧ ∃ object list, ∃ hasExists : Bool,
    phrase? ("DROP" :: if isTemporary then ["TEMPORARY"] else []) (trim statement) = some object ∧
    phrase? (kind.word :: if hasExists then ["IF", "EXISTS"] else []) object = some list ∧
    ObjectKind.ofSpelling (object.take kind.word.length) = kind ∧
    listedNames list = names ∧ ∀ name ∈ names, IsListed name

/-- A list of names begins with the first one, and blanks, a comma or a semicolon end it. -/
theorem exists_first_append {list : Text} (htrim : trimLeft list = list)
    (hlisted : ∀ name ∈ listedNames list, IsListed name) :
    ∃ first gap rest, list = first ++ (gap ++ rest) ∧ (listedNames list).head? = some first ∧
      IsListed first ∧ (∀ c ∈ gap, isBlank c = true) ∧ ∀ c ∈ rest.head?, c = ',' ∨ c = ';' := by
  obtain ⟨closing, hclosing, hlist⟩ := exists_dropTrailing ';' list
  obtain ⟨piece, pieces, hpieces, hpiece⟩ := exists_piece_append (· == ',') (dropTrailing ';' list)
  have hnames : listedNames list = trim piece :: pieces.map trim := by
    rw [listedNames, hpieces, List.map_cons]
  have hfirst : IsListed (trim piece) := hlisted _ (by simp [hnames])
  obtain ⟨lead, gap, hsplit, hlead, hgap⟩ := exists_trim piece
  obtain ⟨rest, hrest, hwhole⟩ : ∃ rest : Text, (∀ c ∈ rest.head?, c = ',' ∨ c = ';') ∧
      list = piece ++ rest := by
    rcases hpiece with heq | ⟨c, behind, hc, heq⟩
    · refine ⟨closing, ?_, by rw [← heq, ← hlist]⟩
      exact fun c hc => .inr (hclosing c (List.mem_of_mem_head? hc))
    · refine ⟨c :: behind ++ closing, ?_, by rw [← List.append_assoc, ← heq, ← hlist]⟩
      intro d hd
      obtain rfl : c = d := by simpa using hd
      exact .inl (by simpa using hc)
  have hnolead : lead = [] := by
    cases lead with
    | nil => rfl
    | cons c lead =>
        rw [hwhole, hsplit] at htrim
        have hc := hlead c (by simp)
        have hlength := congrArg List.length htrim
        have hshorter := (List.dropWhile_suffix isBlank
          (l := lead ++ trim piece ++ gap ++ rest)).length_le
        simp [trimLeft, hc] at hlength hshorter
        omega
  refine ⟨trim piece, gap, rest, ?_, by simp [hnames], hfirst, hgap, hrest⟩
  calc list = piece ++ rest := hwhole
    _ = lead ++ trim piece ++ gap ++ rest := congrArg (· ++ rest) hsplit
    _ = trim piece ++ (gap ++ rest) := by simp [hnolead]

theorem IsListed.listedName?_append {name rest : Text} (h : IsListed name)
    (hrest : ∀ c ∈ rest.head?, isListedCharacter c = false) :
    listedName? (name ++ rest) = some name := by
  have htake := takeWhile_append_of_ends h.2 hrest
  change (if ((name ++ rest).takeWhile isListedCharacter).isEmpty then none
    else some ((name ++ rest).takeWhile isListedCharacter)) = some name
  rw [htake]
  simp [h.1]

/-- A name that spells `IF` is no beginning of `IF EXISTS` if it ends as names in a list do. -/
theorem keywords?_ifExists_eq_none {name gap rest : Text} (hname : IsListed name)
    (hgap : ∀ c ∈ gap, isBlank c = true) (hrest : ∀ c ∈ rest.head?, c = ',' ∨ c = ';')
    (hends : ∀ c ∈ (gap ++ rest).head?, isListedCharacter c = false) :
    keywords? ["IF", "EXISTS"] (name ++ (gap ++ rest)) = none := by
  rw [Option.eq_none_iff_forall_not_mem]
  intro found hfound
  obtain ⟨behind, hif, hfound⟩ := Option.bind_eq_some_iff.mp hfound
  obtain ⟨next, hblanks, hexists⟩ := Option.bind_eq_some_iff.mp hfound
  obtain ⟨word, hsplit, hword⟩ := exists_of_keyword? hif
  obtain ⟨c, inside, rfl, hc, rfl⟩ := exists_of_blanks? hblanks
  have hletters : ∀ d ∈ word, isListedCharacter d = true := by
    intro d hd
    obtain ⟨letter, hletter, hspells⟩ := hword d hd
    have hall : ∀ letter ∈ "IF".toList, ∀ d ∈ spellings letter, isListedCharacter d = true := by
      decide
    exact hall letter hletter d (mem_spellings.mpr hspells)
  have hwords := congrArg (List.takeWhile isListedCharacter) hsplit
  rw [takeWhile_append_of_ends hname.2 hends,
    takeWhile_append_of_ends hletters (by simp [isListedCharacter, hc])] at hwords
  rw [hwords] at hsplit
  -- behind the name and the blanks there is a comma, a semicolon or nothing
  have hinside : trimLeft inside = rest := by
    have hblank := congrArg trimLeft (List.append_cancel_left hsplit)
    rw [trimLeft, trimLeft, List.dropWhile_append_of_pos hgap,
      List.dropWhile_cons_of_pos hc] at hblank
    rw [trimLeft, ← hblank]
    cases rest with
    | nil => rfl
    | cons d rest => rcases hrest d rfl with rfl | rfl <;> rfl
  rw [hinside] at hexists
  cases rest with
  | nil => cases hexists
  | cons d rest => rcases hrest d rfl with rfl | rfl <;> cases hexists

/-- The first listed name is the one that is found. -/
theorem nameBehind?_of_listed {list : Text} (htrim : trimLeft list = list)
    (hlisted : ∀ name ∈ listedNames list, IsListed name) :
    listedName? list = (listedNames list).head? ∧ nameBehind? list = (listedNames list).head? := by
  obtain ⟨first, gap, rest, hlist, hhead, hfirst, hgap, hrest⟩ := exists_first_append htrim hlisted
  have hends : ∀ c ∈ (gap ++ rest).head?, isListedCharacter c = false := by
    intro c hc
    rw [List.head?_append, Option.mem_def, Option.or_eq_some_iff] at hc
    rcases hc with hc | ⟨-, hc⟩
    · simp [isListedCharacter, hgap c (List.mem_of_mem_head? hc)]
    · rcases hrest c hc with rfl | rfl <;> decide
  have hname : listedName? list = some first := hlist ▸ hfirst.listedName?_append hends
  refine ⟨hname.trans hhead.symm, ?_⟩
  rw [nameBehind?, hname, hhead, hlist, keywords?_ifExists_eq_none hfirst hgap hrest hends]
  rfl

section

variable {kind : ObjectKind} {isTemporary : Bool} {statement text object list rest : Text}

/-- A blank ends a word. -/
theorem endsWord_of_blanks? (h : blanks? text = some rest) : endsWord text = true := by
  obtain ⟨c, behind, rfl, hc, -⟩ := exists_of_blanks? h
  simp [endsWord, isWordCharacter_of_isBlank hc]

/-- A keyword that tells apart is no other keyword, whole or not. -/
theorem wholeKeyword?_eq_none {keyword other : Text} (hapart : tellApart keyword other = true)
    (h : keyword? keyword text = some rest) : wholeKeyword? other text = none := by
  rw [wholeKeyword?, keyword?_eq_none_of_tellApart hapart h]
  rfl

/-- A keyword in front of a blank is a whole word. -/
theorem wholeKeyword?_of_blanks? {keyword next : Text} (h : keyword? keyword text = some rest)
    (hblanks : blanks? rest = some next) : wholeKeyword? keyword text = some rest := by
  rw [wholeKeyword?, h, Option.filter_some, if_pos (endsWord_of_blanks? hblanks)]

theorem verb?_drop {next : Text} (h : keyword? "DROP" text = some rest)
    (hblanks : blanks? rest = some next) : verb? text = some (.drop, rest) := by
  have hcreate : wholeKeyword? Verb.create.word text = none :=
    wholeKeyword?_eq_none (by decide) h
  have halter : wholeKeyword? Verb.alter.word text = none :=
    wholeKeyword?_eq_none (by decide) h
  have hdrop : wholeKeyword? Verb.drop.word text = some rest := wholeKeyword?_of_blanks? h hblanks
  simp [verb?, Verb.all, hcreate, halter, hdrop]

/-- A keyword that the kinds of tables and views tell apart from theirs does not stand there. -/
theorem keyword?_eq_none_of_kind (hkind : kind = .table ∨ kind = .view)
    (h : keyword? kind.word text = some rest) {other : Text}
    (htable : tellApart "TABLE" other = true) (hview : tellApart "VIEW" other = true) :
    keyword? other text = none := by
  rcases hkind with rfl | rfl
  · exact keyword?_eq_none_of_tellApart htable h
  · exact keyword?_eq_none_of_tellApart hview h

/-- The first reading finds the keyword of the kind. -/
theorem findSome?_wholeKeyword? (hkind : kind = .table ∨ kind = .view)
    (h : keyword? kind.word text = some rest) (hblanks : blanks? rest = some list) :
    ObjectKind.keywords.findSome? (wholeKeyword? · text) = some rest := by
  rcases hkind with rfl | rfl
  · have htable : wholeKeyword? "TABLE" text = some rest := wholeKeyword?_of_blanks? h hblanks
    simp [ObjectKind.keywords, htable, -String.reduceToList]
  · have htable : wholeKeyword? "TABLE" text = none := wholeKeyword?_eq_none (by decide) h
    have hview : wholeKeyword? "VIEW" text = some rest := wholeKeyword?_of_blanks? h hblanks
    simp [ObjectKind.keywords, htable, hview, -String.reduceToList]

/-- So does the second one. -/
theorem anyKeyword?_of_kind (hkind : kind = .table ∨ kind = .view)
    (h : keyword? kind.word text = some rest) :
    anyKeyword? ObjectKind.keywords text = some rest := by
  rcases hkind with rfl | rfl
  · have htable : keyword? "TABLE" text = some rest := h
    simp [anyKeyword?, ObjectKind.keywords, htable, -String.reduceToList]
  · have htable : keyword? "TABLE" text = none := keyword?_eq_none_of_tellApart (by decide) h
    have hview : keyword? "VIEW" text = some rest := h
    simp [anyKeyword?, ObjectKind.keywords, htable, hview, -String.reduceToList]

/-- No clause stands where the kind of object does. -/
theorem modifier?_eq_none (hkind : kind = .table ∨ kind = .view)
    (hblanks : blanks? text = some object) (hobject : keyword? kind.word object = some rest) :
    modifier? text = none := by
  have htemporary : keyword? "TEMPORARY" object = none :=
    keyword?_eq_none_of_kind hkind hobject (by decide) (by decide)
  have halgorithm : keyword? "ALGORITHM" object = none :=
    keyword?_eq_none_of_kind hkind hobject (by decide) (by decide)
  have hdefiner : keyword? "DEFINER" object = none :=
    keyword?_eq_none_of_kind hkind hobject (by decide) (by decide)
  have hsecurity : keyword? "SQL" object = none :=
    keyword?_eq_none_of_kind hkind hobject (by decide) (by decide)
  simp [modifier?, hblanks, htemporary, assignment?, halgorithm, hdefiner, keywords?, hsecurity,
    -String.reduceToList]

theorem afterAll_of_none {step : Text → Option Text} (h : step text = none) :
    afterAll step text = text := by
  rw [afterAll]
  cases text.length with
  | zero => rfl
  | succ count => rw [afterAtMost, h]

theorem afterAll_of_some {step : Text → Option Text} (h : step text = some rest)
    (hrest : step rest = none) (hne : text ≠ []) : afterAll step text = rest := by
  obtain ⟨c, behind, rfl⟩ := List.exists_cons_of_ne_nil hne
  rw [afterAll, List.length_cons, afterAtMost, h]
  simp only
  cases behind.length with
  | zero => rfl
  | succ count => rw [afterAtMost, hrest]

/-- Behind the verb and the clauses stands the kind of object. -/
theorem blanks?_afterAll_modifier? {behind next : Text} (hkind : kind = .table ∨ kind = .view)
    (hblanks : blanks? behind = some next)
    (hnext : phrase? (if isTemporary then ["TEMPORARY"] else []) next = some object)
    (hobject : keyword? kind.word object = some rest) :
    blanks? (afterAll modifier? (afterReplace behind)) = some object := by
  cases isTemporary with
  | true =>
      obtain ⟨mid, _, htemporary, hmid, hend⟩ := phrase?_cons hnext
      obtain rfl := Option.some.inj hend
      have hor : keyword? "OR" next = none := keyword?_eq_none_of_tellApart (by decide) htemporary
      have hreplace : afterReplace behind = behind := by
        simp [afterReplace, hblanks, keywords?, hor, -String.reduceToList]
      have hmodifier : modifier? behind = some mid := by
        simp [modifier?, hblanks, htemporary, -String.reduceToList]
      obtain ⟨c, inside, rfl, -, -⟩ := exists_of_blanks? hblanks
      rw [hreplace, afterAll_of_some hmodifier (modifier?_eq_none hkind hmid hobject) (by simp),
        hmid]
  | false =>
      obtain rfl := Option.some.inj hnext
      have hor : keyword? "OR" next = none :=
        keyword?_eq_none_of_kind hkind hobject (by decide) (by decide)
      have hreplace : afterReplace behind = behind := by
        simp [afterReplace, hblanks, keywords?, hor, -String.reduceToList]
      rw [hreplace, afterAll_of_none (modifier?_eq_none hkind hblanks hobject), hblanks]

/-- Such a statement drops objects of its kind. -/
theorem subject?_of_phrase {keywords : List Text} (hkind : kind = .table ∨ kind = .view)
    (hverb : phrase? ("DROP" :: if isTemporary then ["TEMPORARY"] else []) (trimLeft statement)
      = some object)
    (hobject : phrase? (kind.word :: keywords) object = some list)
    (hspelling : ObjectKind.ofSpelling (object.take kind.word.length) = kind) :
    subject? statement = some (.drop, kind) := by
  obtain ⟨behind, next, hdrop, hblanks, hnext⟩ := phrase?_cons hverb
  obtain ⟨rest, _, hkeyword, hgap, _⟩ := phrase?_cons hobject
  have hbefore : before object rest = object.take kind.word.length := by
    rw [before, length_of_keyword? hkeyword, Nat.add_sub_cancel]
  simp [subject?, verb?_drop hdrop hblanks, blanks?_afterAll_modifier? hkind hblanks hnext hkeyword,
    findSome?_wholeKeyword? hkind hkeyword hgap, hbefore, hspelling]

/-- It names the first of the listed objects, unless `TEMPORARY` stands in front of the kind. -/
theorem nameOfDrop?_of_phrase {hasExists : Bool} (hkind : kind = .table ∨ kind = .view)
    (hverb : phrase? ("DROP" :: if isTemporary then ["TEMPORARY"] else []) (trimLeft statement)
      = some object)
    (hobject : phrase? (kind.word :: if hasExists then ["IF", "EXISTS"] else []) object
      = some list)
    (hlisted : ∀ name ∈ listedNames list, IsListed name) :
    nameOfDrop? statement = if isTemporary then none else (listedNames list).head? := by
  obtain ⟨behind, next, hdrop, hblanks, hnext⟩ := phrase?_cons hverb
  obtain ⟨rest, named, hkeyword, hgap, hnamed⟩ := phrase?_cons hobject
  rw [nameOfDrop?_eq, hdrop, Option.bind_some, hblanks, Option.bind_some]
  cases isTemporary with
  | true =>
      obtain ⟨_, _, htemporary, _, _⟩ := phrase?_cons hnext
      have hnone : anyKeyword? ObjectKind.keywords next = none := by
        rw [anyKeyword?, List.findSome?_eq_none_iff]
        intro keyword hmem
        have hapart : ∀ keyword ∈ ObjectKind.keywords, tellApart "TEMPORARY" keyword = true := by
          decide
        exact keyword?_eq_none_of_tellApart (hapart keyword hmem) htemporary
      rw [hnone]
      rfl
  | false =>
      obtain rfl := Option.some.inj hnext
      rw [anyKeyword?_of_kind hkind hkeyword, Option.bind_some, hgap, Option.bind_some,
        if_neg (by simp)]
      cases hasExists with
      | true =>
          have hexists : (keywords? ["IF", "EXISTS"] named).bind blanks? = some list := by
            obtain ⟨_, _, hif, hbetween, hmore⟩ := phrase?_cons hnamed
            obtain ⟨_, _, hexists, hlist, hend⟩ := phrase?_cons hmore
            simp [keywords?, hif, hbetween, hexists, hlist, Option.some.inj hend,
              -String.reduceToList]
          have htrim : trimLeft list = list := by
            obtain ⟨_, hbefore, hlist⟩ := Option.bind_eq_some_iff.mp hexists
            exact trimLeft_of_blanks? hlist
          obtain ⟨first, _, _, _, hhead, _⟩ := exists_first_append htrim hlisted
          rw [nameBehind?, hexists, Option.bind_some, (nameBehind?_of_listed htrim hlisted).1,
            hhead]
          rfl
      | false =>
          obtain rfl := Option.some.inj hnamed
          exact (nameBehind?_of_listed (trimLeft_of_blanks? hgap) hlisted).2

/-- What is read of a statement that drops the listed objects. -/
theorem DropsListed.ofStatement? {names : List Text}
    (h : DropsListed kind isTemporary names statement) :
    ∃ definition, Definition.ofStatement? statement = some definition ∧
      definition.subject = some (.drop, kind) ∧
      definition.droppedName = if isTemporary then none else names.head? := by
  obtain ⟨hkind, object, list, hasExists, hverb, hobject, hspelling, rfl, hlisted⟩ := h
  have hlist : list ≠ [] := by
    rintro rfl
    exact (hlisted [] (by decide)).1 rfl
  have hobjectNe : object ≠ [] := by
    rintro rfl
    exact hlist (List.suffix_nil.mp (phrase?_suffix hobject))
  have hsubject : subject? statement = some (.drop, kind) := by
    obtain ⟨pad, hpad, htext⟩ := exists_trimRight (trimLeft statement)
    have hverbs : ∀ keyword ∈ "DROP".toList :: (if isTemporary then ["TEMPORARY".toList] else []),
        ∀ letter ∈ keyword, isBlank letter = false ∧ isBlank letter.toLower = false := by
      cases isTemporary <;> decide
    have hobjects : ∀ keyword ∈
        kind.word :: (if hasExists then ["IF".toList, "EXISTS".toList] else []),
        ∀ letter ∈ keyword, isBlank letter = false ∧ isBlank letter.toLower = false := by
      rcases hkind with rfl | rfl <;> cases hasExists <;> decide
    have hobject' := phrase?_append_blank hobjects hobject hlist hpad
    refine subject?_of_phrase hkind (htext ▸ phrase?_append_blank hverbs hverb hobjectNe hpad)
      hobject' ?_
    obtain ⟨rest, _, hkeyword, _, _⟩ := phrase?_cons hobject
    have hlength := length_of_keyword? hkeyword
    rwa [List.take_append_of_le_length (by omega)]
  refine ⟨_, by rw [Definition.ofStatement?, hsubject]; rfl, rfl, ?_⟩
  change nameOfDrop? (dense (trim statement)) = _
  rw [nameOfDrop?_dense]
  refine nameOfDrop?_of_phrase hkind ?_ hobject hlisted
  rwa [trimLeft_trim]

end

end Definition

end SchemaMigration
