import SchemaMigration.Proofs.Table.Clause
import SchemaMigration.Proofs.Text.Phrase

/-!
# Columns that are named like keywords

The readers of keys are tried before that of columns, and every word that begins a key may also be
the name of a column. Such a line is read as a column all the same: a key line goes on with a
parenthesis or with one of a few keywords, and the definition of a column has neither where a reader
would look for it, however much of the line the reader takes for names.

## Main Definitions

* `IsPlainWord` - a word of letters, digits, underscores and dollar signs
* `ColumnDefinition` - a definition without the words of a key at its beginning
* `TableLine.keyword?_plain` - what a keyword at the beginning of a plain word leaves of it
* `TableLine.constraint?_line_eq_none`, `TableLine.indexTail?_definition_eq_none` - no reader finds
  a key behind the name
* `TableLine.ofText_eq_column` - such a line is read as a column

## Design Notes

A reader gets behind the name only if the name spells its keyword as a whole; otherwise a letter of
the name is left where the reader needs a blank or a parenthesis. With the first word of the
definition it is the same, and this word is none of the keywords.
-/

namespace SchemaMigration

open Text

/-! ## Plain words -/

/-- A letter or a digit of ASCII, an underscore or a dollar sign. -/
def isPlain (c : Char) : Bool := c.isAlphanum || c == '_' || c == '$'

/-- One or more of these characters. -/
structure IsPlainWord (word : Text) : Prop where
  ne_nil : word ≠ []
  plain : ∀ c ∈ word, isPlain c = true

theorem isBlank_of_isPlain {c : Char} (hc : isPlain c = true) : isBlank c = false := by
  rw [Bool.eq_false_iff]
  intro hblank
  have hplain := of_isBlank (! isPlain ·) (by decide +kernel) hblank
  simp [hc] at hplain

theorem ne_opening_of_isPlain {c : Char} (hc : isPlain c = true) : c ≠ '(' := by
  rintro rfl
  cases hc

theorem IsPlainWord.isName {word : Text} (h : IsPlainWord word) : IsName word :=
  ⟨h.ne_nil, fun c hc =>
    ⟨isBlank_of_isPlain (h.plain c hc), ne_opening_of_isPlain (h.plain c hc)⟩⟩

theorem IsPlainWord.isWord {word : Text} (h : IsPlainWord word) : IsWord word :=
  ⟨h.ne_nil, fun c hc => isBlank_of_isPlain (h.plain c hc)⟩

/-- A plain word spells a keyword only in its two cases. -/
theorem map_toUpper_of_isSpelling {keyword word : Text} (h : IsSpelling keyword word)
    (hkeyword : IsKeyword keyword) (hplain : ∀ c ∈ word, isPlain c = true) :
    word.map Char.toUpper = keyword := by
  have htable : "ABCDEFGHIJKLMNOPQRSTUVWXYZ".toList.all fun letter =>
      (spellings letter).all fun c => ! isPlain c || c.toUpper == letter := by
    decide +kernel
  have hletters := hkeyword.2
  clear hkeyword
  induction h with
  | nil => rfl
  | @cons letter c keyword word hletter _ ih =>
      obtain ⟨hfirst, hmore⟩ := List.forall_mem_cons.mp hletters
      obtain ⟨hc, hword⟩ := List.forall_mem_cons.mp hplain
      have hupper := List.all_eq_true.mp (List.all_eq_true.mp htable letter hfirst) c
        (mem_spellings.mpr hletter)
      have hsame : c.toUpper = letter := by simpa [hc] using hupper
      rw [List.map_cons, hsame, ih hword hmore]

/-- A text that begins with such a character. -/
def StartsPlain (text : Text) : Prop := ∃ c ∈ text.head?, isPlain c = true

theorem IsPlainWord.startsPlain {word : Text} (h : IsPlainWord word) (rest : Text) :
    StartsPlain (word ++ rest) := by
  obtain ⟨c, word, rfl⟩ := List.exists_cons_of_ne_nil h.ne_nil
  exact ⟨c, rfl, h.plain c (by simp)⟩

/-! ## Definitions -/

/-- The keywords with which a key may go on behind its first one. -/
def keyWords : List Text := ["KEY", "INDEX", "USING", "FOREIGN", "CHECK"]

/-- The keywords with which a key may go on behind its name. -/
def clauseWords : List Text := ["USING", "CHECK", "FOREIGN"]

/-- What stands behind the first word of a definition: nothing, a parenthesis at once, or blanks
and neither a parenthesis nor a keyword of a key. -/
inductive IsWordTail : Text → Prop
  | nil : IsWordTail []
  | opening (rest : Text) : IsWordTail ('(' :: rest)
  | gap {gap rest : Text} (hgap : IsGap gap)
      (hhead : ∀ c ∈ rest.head?, isBlank c = false ∧ c ≠ '(')
      (hkeyword : ∀ keyword ∈ clauseWords, keyword? keyword rest = none) : IsWordTail (gap ++ rest)

/-- A definition, from its first word on, that has no word of a key at its beginning. -/
structure ColumnDefinition (word tail : Text) : Prop where
  trimmed : trim (word ++ tail) = word ++ tail
  isPlainWord : IsPlainWord word
  not_mem : word.map Char.toUpper ∉ keyWords
  isWordTail : IsWordTail tail

theorem IsWordTail.head? {tail : Text} (h : IsWordTail tail) :
    ∀ c ∈ tail.head?, isBlank c = true ∨ c = '(' := by
  cases h with
  | nil => simp
  | opening rest => simp
  | gap hgap _ _ =>
      intro c hc
      rw [List.head?_append_of_ne_nil _ hgap.ne_nil] at hc
      exact .inl (hgap.isBlank c (List.mem_of_mem_head? hc))

theorem IsWordTail.of_blanks? {tail next : Text} (h : IsWordTail tail)
    (hblanks : blanks? tail = some next) :
    (∀ c ∈ next.head?, isBlank c = false ∧ c ≠ '(') ∧
      ∀ keyword ∈ clauseWords, keyword? keyword next = none := by
  cases h with
  | nil => cases hblanks
  | opening rest => cases hblanks
  | @gap gap rest hgap hhead hkeyword =>
      have hread : blanks? (gap ++ rest) = some rest :=
        blanks?_eq_some.mpr ⟨gap, hgap, rfl, fun c hc => (hhead c hc).1⟩
      obtain rfl := Option.some.inj (hread.symm.trans hblanks)
      exact ⟨hhead, hkeyword⟩

namespace TableLine

/-! ## What keywords leave -/

theorem opening?_eq_none {text : Text} (h : ∀ c ∈ (trimLeft text).head?, c ≠ '(') :
    opening? text = none := by
  rw [opening?]
  split
  · rename_i htrim
    exact absurd rfl (h '(' (by rw [htrim]; rfl))
  · rfl

theorem blanks?_of_startsPlain {text : Text} (h : StartsPlain text) : blanks? text = none := by
  obtain ⟨c, hc, hplain⟩ := h
  obtain ⟨rest, rfl⟩ := List.head?_eq_some_iff.mp hc
  simp [blanks?, isBlank_of_isPlain hplain]

theorem trimLeft_of_startsPlain {text : Text} (h : StartsPlain text) : trimLeft text = text := by
  obtain ⟨c, hc, hplain⟩ := h
  obtain ⟨rest, rfl⟩ := List.head?_eq_some_iff.mp hc
  simp [trimLeft, isBlank_of_isPlain hplain]

theorem opening?_of_startsPlain {text : Text} (h : StartsPlain text) : opening? text = none := by
  refine opening?_eq_none fun c hc => ?_
  rw [trimLeft_of_startsPlain h] at hc
  obtain ⟨d, hd, hplain⟩ := h
  obtain rfl : d = c := Option.mem_unique hd hc
  exact ne_opening_of_isPlain hplain

/-- A method needs a parenthesis, or a word behind its keyword. -/
theorem method?_eq_none {text : Text}
    (husing : ∀ rest, afterKeyword? "USING" text = some rest → blanks? rest = none)
    (hopening : opening? text = none) : method? text = none := by
  simp only [method?, hopening, Option.bind_eq_bind, Option.map_none]
  cases hread : afterKeyword? "USING" text with
  | none => rfl
  | some rest => simp [husing rest hread]

/-- An index needs a method behind its keyword, or behind its name. -/
theorem indexTail?_eq_none_of_method? {text : Text} (hmethod : method? text = none)
    (hname : ∀ rest name behind, blanks? text = some rest → name? rest = some (name, behind) →
      blanks? behind ≠ none → method? behind = none) : indexTail? text = none := by
  simp only [indexTail?, hmethod, Option.map_none, Option.bind_eq_bind]
  cases hblanks : blanks? text with
  | none => rfl
  | some rest =>
      rw [Option.bind_some]
      split
      · rfl
      · cases hread : name? rest with
        | none => rfl
        | some found =>
            cases hnext : blanks? found.2 with
            | none => simp [hnext]
            | some next =>
                have hnone := hname rest found.1 found.2 hblanks hread (by simp [hnext])
                simp [hnone]

theorem method?_of_startsPlain {text : Text} (h : StartsPlain text) : method? text = none := by
  refine method?_eq_none (fun rest hread => ?_) (opening?_of_startsPlain h)
  rw [afterKeyword?, blanks?_of_startsPlain h] at hread
  cases hread

theorem indexTail?_of_startsPlain {text : Text} (h : StartsPlain text) :
    indexTail? text = none := by
  have hblanks := blanks?_of_startsPlain h
  refine indexTail?_eq_none_of_method? (method?_of_startsPlain h) ?_
  intro rest name behind hrest
  rw [hblanks] at hrest
  cases hrest

/-- A foreign key needs a blank or a parenthesis behind its keywords. -/
theorem foreignKeyParts?_eq_none {text : Text}
    (h : ∀ rest, keywords? ["FOREIGN", "KEY"] text = some rest → StartsPlain rest) :
    foreignKeyParts? text = none := by
  rw [foreignKeyParts?, Option.bind_eq_bind, Option.bind_eq_none_iff]
  intro rest hread
  rw [blanks?_of_startsPlain (h rest hread), opening?_of_startsPlain (h rest hread)]
  rfl

/-- An index is named behind its first keyword, or behind `KEY` or `INDEX` as the second. -/
theorem indexHead?_eq_none {line : Text} (h : ∀ keyword rest, IsKeyword keyword →
    keyword? keyword line = some rest → indexTail? rest = none ∧
      ∀ next behind, blanks? rest = some next → anyKeyword? ["KEY", "INDEX"] next = some behind →
        indexTail? behind = none) : indexHead? line = none := by
  rw [Option.eq_none_iff_forall_ne_some]
  intro found hread
  rcases eq_some_of_orElse hread with hread | hread
  · obtain ⟨word, hmem, hread⟩ := List.exists_of_findSome?_eq_some hread
    have hwords : ∀ word ∈ ["UNIQUE", "FULLTEXT", "SPATIAL"], IsKeyword word.toList := by decide
    simp only [Option.bind_eq_bind, Option.bind_eq_some_iff] at hread
    obtain ⟨rest, hkeyword, tail, htail, -⟩ := hread
    obtain ⟨hnone, hsecond⟩ := h _ rest (hwords word hmem) hkeyword
    rcases eq_some_of_orElse htail with htail | htail
    · obtain ⟨behind, hbehind, htail⟩ := Option.bind_eq_some_iff.mp htail
      obtain ⟨next, hblanks, hany⟩ := Option.bind_eq_some_iff.mp hbehind
      rw [hsecond next behind hblanks hany] at htail
      cases htail
    · rw [hnone] at htail
      cases htail
  · simp only [Option.bind_eq_bind, Option.bind_eq_some_iff] at hread
    obtain ⟨rest, hany, tail, htail, -⟩ := hread
    obtain ⟨keyword, hmem, hkeyword⟩ := List.exists_of_findSome?_eq_some hany
    have hkeys : ∀ key ∈ ["KEY".toList, "INDEX".toList], IsKeyword key := by decide
    rw [(h keyword rest (hkeys keyword hmem) hkeyword).1] at htail
    cases htail

/-- A keyword at the beginning of a plain word leaves the word's other characters, if there are
any. -/
theorem keyword?_plain {keyword word tail rest : Text} (hkeyword : IsKeyword keyword)
    (hword : IsPlainWord word) (htail : ∀ c ∈ tail.head?, isBlank c = true ∨ c = '(')
    (h : keyword? keyword (word ++ tail) = some rest) :
    StartsPlain rest ∨ (rest = tail ∧ word.map Char.toUpper = keyword) := by
  have hspells : ∀ letter ∈ keyword, ∀ c ∈ tail.head?, spells letter c = false := by
    intro letter hletter c hc
    rw [Bool.eq_false_iff]
    intro hspells
    have hwordCharacter := (spelled_by (hkeyword.2 letter hletter) hspells).1
    rcases htail c hc with hblank | rfl
    · rw [isWordCharacter_of_isBlank hblank] at hwordCharacter
      cases hwordCharacter
    · exact absurd hwordCharacter (by decide)
  rw [keyword?_append hspells] at h
  obtain ⟨behind, hbehind, rfl⟩ := Option.map_eq_some_iff.mp h
  obtain ⟨spelled, hspelled, rfl⟩ := keyword?_eq_some.mp hbehind
  cases behind with
  | nil =>
      refine .inr ⟨rfl, ?_⟩
      rw [List.append_nil]
      refine map_toUpper_of_isSpelling hspelled hkeyword fun c hc => ?_
      exact hword.plain c (List.mem_append_left _ hc)
  | cons c behind => exact .inl ⟨c, rfl, hword.plain c (by simp)⟩

/-! ## Readers of keys -/

section

variable {name word tail : Text} (hname : IsPlainWord name) (h : ColumnDefinition word tail)

include h

/-- The first word of the definition is longer than a keyword that it begins with. -/
theorem keyword?_definition {keyword rest : Text} (hmem : keyword ∈ keyWords)
    (hread : keyword? keyword (word ++ tail) = some rest) : StartsPlain rest := by
  have hkeyword : ∀ keyword ∈ keyWords, IsKeyword keyword := by decide
  rcases keyword?_plain (hkeyword keyword hmem) h.isPlainWord h.isWordTail.head? hread
    with hplain | ⟨-, hupper⟩
  · exact hplain
  · exact absurd (hupper ▸ hmem) h.not_mem

theorem name?_definition : name? (word ++ tail) = some (word, tail) :=
  name?_eq_some.mpr ⟨h.isPlainWord.isName, rfl, h.isWordTail.head?⟩

theorem blanks?_definition : blanks? (' ' :: (word ++ tail)) = some (word ++ tail) :=
  blanks?_space fun c hc => (h.isPlainWord.isName.head? tail c hc).1

theorem opening?_definition : opening? (' ' :: (word ++ tail)) = none := by
  have hopening := opening?_of_startsPlain (h.isPlainWord.startsPlain tail)
  rw [opening?] at hopening ⊢
  exact hopening

/-- Behind the first word and blanks there is neither a method nor a parenthesis. -/
theorem method?_tail_eq_none {next : Text} (hblanks : blanks? tail = some next) :
    method? tail = none := by
  obtain ⟨hhead, hclause⟩ := h.isWordTail.of_blanks? hblanks
  refine method?_eq_none (fun rest hread => ?_) (opening?_eq_none fun c hc => ?_)
  · rw [afterKeyword?, hblanks, Option.bind_eq_bind, Option.bind_some,
      hclause _ (by decide)] at hread
    cases hread
  · obtain ⟨d, behind, rfl, hd, rfl⟩ := exists_of_blanks? hblanks
    rw [trimLeft, List.dropWhile_cons_of_pos hd] at hc
    exact (hhead c hc).2

/-- The definition is not the name of an index, and no method either. -/
theorem indexTail?_definition_eq_none : indexTail? (' ' :: (word ++ tail)) = none := by
  refine indexTail?_eq_none_of_method? ?_ ?_
  · refine method?_eq_none (fun rest hread => ?_) (opening?_definition h)
    rw [afterKeyword?, blanks?_definition h] at hread
    exact blanks?_of_startsPlain (keyword?_definition h (by decide) hread)
  · intro rest given behind hrest hread hblanks
    obtain rfl := Option.some.inj ((blanks?_definition h).symm.trans hrest)
    obtain ⟨-, rfl⟩ := Prod.mk.inj (Option.some.inj ((name?_definition h).symm.trans hread))
    obtain ⟨next, hnext⟩ := Option.ne_none_iff_exists'.mp hblanks
    exact method?_tail_eq_none h hnext

include hname

omit h in
/-- A keyword in front of the line is a part of the name or the whole of it. -/
theorem keyword?_line {keyword definition rest : Text} (hkeyword : IsKeyword keyword)
    (hread : keyword? keyword (name ++ ' ' :: definition) = some rest) :
    StartsPlain rest ∨ rest = ' ' :: definition :=
  (keyword?_plain hkeyword hname (by simp +decide) hread).imp_right And.left

/-- Behind a keyword in front of the line there is no parenthesis. -/
theorem opening?_line {keyword rest : Text} (hkeyword : IsKeyword keyword)
    (hread : keyword? keyword (name ++ ' ' :: (word ++ tail)) = some rest) :
    opening? rest = none := by
  rcases keyword?_line hname hkeyword hread with hplain | rfl
  · exact opening?_of_startsPlain hplain
  · exact opening?_definition h

/-- Where blanks stand behind a keyword, they lead to the definition. -/
theorem blanks?_line {keyword rest next : Text} (hkeyword : IsKeyword keyword)
    (hread : keyword? keyword (name ++ ' ' :: (word ++ tail)) = some rest)
    (hblanks : blanks? rest = some next) : next = word ++ tail := by
  rcases keyword?_line hname hkeyword hread with hplain | rfl
  · rw [blanks?_of_startsPlain hplain] at hblanks
    cases hblanks
  · exact Option.some.inj (hblanks.symm.trans (blanks?_definition h))

theorem indexTail?_line {keyword rest : Text} (hkeyword : IsKeyword keyword)
    (hread : keyword? keyword (name ++ ' ' :: (word ++ tail)) = some rest) :
    indexTail? rest = none := by
  rcases keyword?_line hname hkeyword hread with hplain | rfl
  · exact indexTail?_of_startsPlain hplain
  · exact indexTail?_definition_eq_none h

/-- Two keywords in front of the line end inside of the first word of the definition. -/
theorem keywords?_line {first rest : Text} (hfirst : IsKeyword first)
    (hread : keywords? [first, "KEY"] (name ++ ' ' :: (word ++ tail)) = some rest) :
    StartsPlain rest := by
  simp only [keywords?, Option.bind_eq_bind, Option.bind_eq_some_iff] at hread
  obtain ⟨behind, hbehind, next, hblanks, hkey⟩ := hread
  rw [blanks?_line hname h hfirst hbehind hblanks] at hkey
  exact keyword?_definition h (by decide) hkey

/-- What is read behind a name that may be missing is read at one of three places. -/
theorem constraint?_line_eq_none {α : Type} {read : Text → Option α}
    (hline : read (name ++ ' ' :: (word ++ tail)) = none) (hdefinition : read (word ++ tail) = none)
    (htail : ∀ next, (∀ keyword ∈ clauseWords, keyword? keyword next = none) → read next = none) :
    constraint? read (name ++ ' ' :: (word ++ tail)) = none := by
  rw [constraint?, hline]
  cases hkeyword : keyword? "CONSTRAINT" (name ++ ' ' :: (word ++ tail)) with
  | none => rfl
  | some rest =>
      cases hblanks : blanks? rest with
      | none => simp [hblanks]
      | some next =>
          obtain rfl := blanks?_line hname h (by decide) hkeyword hblanks
          cases hnext : blanks? tail with
          | none => simp [hblanks, name?_definition h, hnext, hdefinition]
          | some next =>
              have hnone := htail next (h.isWordTail.of_blanks? hnext).2
              simp [hblanks, name?_definition h, hnext, hdefinition, hnone]

theorem primaryKey?_line_eq_none : primaryKey? (name ++ ' ' :: (word ++ tail)) = none := by
  rw [primaryKey?, Option.bind_eq_bind, Option.bind_eq_none_iff]
  intro rest hread
  rw [method?_of_startsPlain (keywords?_line hname h (by decide) hread)]
  rfl

theorem foreignKey?_line_eq_none : foreignKey? (name ++ ' ' :: (word ++ tail)) = none := by
  have hconstraint : constraint? foreignKeyParts? (name ++ ' ' :: (word ++ tail)) = none := by
    refine constraint?_line_eq_none hname h ?_ ?_ ?_
    · exact foreignKeyParts?_eq_none fun rest hread => keywords?_line hname h (by decide) hread
    · refine foreignKeyParts?_eq_none fun rest hread => ?_
      simp only [keywords?, Option.bind_eq_bind, Option.bind_eq_some_iff] at hread
      obtain ⟨behind, hbehind, next, hblanks, -⟩ := hread
      rw [blanks?_of_startsPlain (keyword?_definition h (by decide) hbehind)] at hblanks
      cases hblanks
    · intro next hclause
      refine foreignKeyParts?_eq_none fun rest hread => ?_
      rw [keywords?, hclause _ (by decide)] at hread
      · cases hread
      · simp
  rw [foreignKey?, hconstraint]
  rfl

theorem check?_line_eq_none : check? (name ++ ' ' :: (word ++ tail)) = none := by
  have hconstraint : constraint? (fun text => (keyword? "CHECK" text).bind opening?)
      (name ++ ' ' :: (word ++ tail)) = none := by
    refine constraint?_line_eq_none hname h ?_ ?_ ?_
    · rw [Option.bind_eq_none_iff]
      exact fun rest hread => opening?_line hname h (by decide) hread
    · rw [Option.bind_eq_none_iff]
      exact fun rest hread => opening?_of_startsPlain (keyword?_definition h (by decide) hread)
    · intro next hclause
      rw [hclause _ (by decide), Option.bind_none]
  simp only [check?, Option.bind_eq_bind, hconstraint, Option.bind_none]

theorem index?_line_eq_none : index? (name ++ ' ' :: (word ++ tail)) = none := by
  have hhead : indexHead? (name ++ ' ' :: (word ++ tail)) = none := by
    refine indexHead?_eq_none fun keyword rest hkeyword hread => ⟨indexTail?_line hname h hkeyword
      hread, fun next behind hblanks hany => ?_⟩
    rw [blanks?_line hname h hkeyword hread hblanks] at hany
    obtain ⟨second, hmem, hsecond⟩ := List.exists_of_findSome?_eq_some hany
    have hkeys : ∀ key ∈ ["KEY".toList, "INDEX".toList], key ∈ keyWords := by decide
    exact indexTail?_of_startsPlain (keyword?_definition h (hkeys second hmem) hsecond)
  rw [index?, hhead]
  rfl

omit h in
theorem terminator?_line_eq_none (definition : Text) :
    terminator? (name ++ ' ' :: definition) = none := by
  obtain ⟨c, name, rfl⟩ := List.exists_cons_of_ne_nil hname.ne_nil
  rw [List.cons_append]
  unfold terminator?
  split
  · rename_i hcons
    obtain ⟨rfl, -⟩ := List.cons.inj hcons
    exact absurd (hname.plain ')' (by simp)) (by decide)
  · rfl

theorem column?_line :
    column? (name ++ ' ' :: (word ++ tail)) = some (.column name (word ++ tail)) := by
  have hword : word? (name ++ ' ' :: (word ++ tail)) = some (name, ' ' :: (word ++ tail)) :=
    word?_eq_some.mpr ⟨hname.isWord, rfl, by rintro c ⟨⟩; rfl⟩
  have hne : (word ++ tail).isEmpty = false := by
    simp [h.isPlainWord.ne_nil]
  rw [column?, hword]
  simp only [Option.bind_eq_bind, Option.bind_some, trim_space, h.trimmed, hne]
  rfl

/-- A line of a plain name, a space and the definition of a column is read as that column, even if
the name is a keyword with which a key begins. -/
theorem ofText_eq_column :
    ofText (name ++ ' ' :: (word ++ tail)) = .column name (word ++ tail) := by
  have htrim : trim (name ++ ' ' :: (word ++ tail)) = name ++ ' ' :: (word ++ tail) := by
    have hsplit : name ++ ' ' :: (word ++ tail) = (name ++ [' ']) ++ (word ++ tail) := by simp
    refine trim_eq_self (hname.isWord.head? _) ?_
    rw [hsplit, List.getLast?_append_of_ne_nil _ (by simp [h.isPlainWord.ne_nil]), ← h.trimmed]
    exact getLast?_trim
  rw [ofText, htrim, primaryKey?_line_eq_none hname h, foreignKey?_line_eq_none hname h,
    check?_line_eq_none hname h, index?_line_eq_none hname h, terminator?_line_eq_none hname,
    column?_line hname h]
  rfl

end

/-- A column of the name `Unique`, whose type begins like `KEY`. -/
theorem ofText_eq_column_unique :
    IsPlainWord "Unique".toList ∧ ColumnDefinition "keys".toList " unsigned NOT NULL".toList ∧
      ofText "Unique keys unsigned NOT NULL".toList =
        .column "Unique".toList "keys unsigned NOT NULL".toList := by
  have hname : IsPlainWord "Unique".toList := ⟨by decide, by decide⟩
  have htail : IsWordTail ([' '] ++ "unsigned NOT NULL".toList) :=
    .gap isGap_space (by decide) (by decide)
  have h : ColumnDefinition "keys".toList " unsigned NOT NULL".toList :=
    ⟨by decide, ⟨by decide, by decide⟩, by decide, htail⟩
  have hline : "Unique keys unsigned NOT NULL".toList =
      "Unique".toList ++ ' ' :: ("keys".toList ++ " unsigned NOT NULL".toList) := by
    decide +kernel
  have hdefinition : "keys unsigned NOT NULL".toList =
      "keys".toList ++ " unsigned NOT NULL".toList := by
    decide +kernel
  refine ⟨hname, h, ?_⟩
  rw [hline, hdefinition]
  exact ofText_eq_column hname h

end TableLine

end SchemaMigration
