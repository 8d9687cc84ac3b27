import SchemaMigration.Proofs.Table.Enclosed
import SchemaMigration.Proofs.Text.StringLiteral
import SchemaMigration.Table.Line

/-!
# What a line of a table body is read as

Every text that is read off a line is a part of that line, apart from the method of a key, which is
put in upper case. Names have neither blanks nor opening parentheses, and what stood between
parentheses may stand there again.

## Main Definitions

* `IsName` - a name as it stands in front of a blank or a parenthesis
* `TableLine.Reads` - what is known of a line and what it is read as
* `TableLine.reads_ofText` - every line is read so
* `TableLine.texts` - the texts that are kept of a line

## Design Notes

Which words stand between the parts does not matter here, so one description fits all the ways in
which a key may be written.
-/

namespace SchemaMigration

open Text

/-! ## Names -/

/-- A name as it stands in front of a blank or a parenthesis. -/
structure IsName (name : Text) : Prop where
  ne_nil : name ≠ []
  inside : ∀ c ∈ name, isBlank c = false ∧ c ≠ '('

theorem name?_eq_some {text name rest : Text} :
    name? text = some (name, rest) ↔
      IsName name ∧ text = name ++ rest ∧ ∀ c ∈ rest.head?, isBlank c = true ∨ c = '(' := by
  let inside : Char → Bool := fun c => ! isBlank c && c != '('
  have hread : name? text = some (name, rest) ↔ name ≠ [] ∧ (∀ c ∈ name, inside c = true) ∧
      text = name ++ rest ∧ ∀ c ∈ rest.head?, inside c = false := stretch_eq_some
  simp only [hread, inside, Bool.and_eq_true, Bool.not_eq_true', bne_iff_ne, Bool.and_eq_false_iff,
    Bool.not_eq_false', bne_eq_false_iff_eq]
  constructor
  · rintro ⟨hne, hinside, hrest⟩
    exact ⟨⟨hne, hinside⟩, hrest⟩
  · rintro ⟨hname, hrest⟩
    exact ⟨hname.ne_nil, hname.inside, hrest⟩

theorem IsName.head? {name : Text} (h : IsName name) (rest : Text) :
    ∀ c ∈ (name ++ rest).head?, isBlank c = false ∧ c ≠ '(' := by
  obtain ⟨c, name, rfl⟩ := List.exists_cons_of_ne_nil h.ne_nil
  rintro d ⟨⟩
  exact h.inside c (by simp)

/-! ## Recognisers -/

/-- What one of two readers returns was returned by one of them. -/
theorem eq_some_of_orElse {α : Type} {first second : Option α} {a : α}
    (h : (first <|> second) = some a) : first = some a ∨ second = some a := by
  cases first with
  | none => exact Or.inr h
  | some b => exact Or.inl h

theorem suffix_of_blanks? {text rest : Text} (h : blanks? text = some rest) : rest <:+ text := by
  obtain ⟨c, behind, rfl, -, rfl⟩ := exists_of_blanks? h
  exact (List.dropWhile_suffix _).trans (List.suffix_cons c behind)

theorem suffix_of_keyword? {keyword text rest : Text} (h : keyword? keyword text = some rest) :
    rest <:+ text := by
  obtain ⟨word, rfl, -⟩ := exists_of_keyword? h
  exact List.suffix_append word rest

theorem suffix_of_keywords? {keywords : List Text} {text rest : Text}
    (h : keywords? keywords text = some rest) : rest <:+ text := by
  induction keywords generalizing text with
  | nil => exact Option.some.inj h ▸ List.suffix_rfl
  | cons keyword keywords ih =>
      cases keywords with
      | nil => exact suffix_of_keyword? h
      | cons next keywords =>
          simp only [keywords?, Option.bind_eq_bind, Option.bind_eq_some_iff] at h
          obtain ⟨first, hfirst, behind, hblanks, hrest⟩ := h
          exact (ih hrest).trans ((suffix_of_blanks? hblanks).trans (suffix_of_keyword? hfirst))

theorem suffix_of_anyKeyword? {keywords : List Text} {text rest : Text}
    (h : anyKeyword? keywords text = some rest) : rest <:+ text := by
  obtain ⟨keyword, -, hkeyword⟩ := List.exists_of_findSome?_eq_some h
  exact suffix_of_keyword? hkeyword

theorem suffix_of_opening? {text rest : Text} (h : opening? text = some rest) : rest <:+ text := by
  rw [opening?] at h
  split at h
  · rename_i behind htrim
    rw [← Option.some.inj h, ← htrim]
    exact List.dropWhile_suffix _
  · cases h

theorem suffix_of_name? {text name rest : Text} (h : name? text = some (name, rest)) :
    rest <:+ text ∧ name <:+: text := by
  obtain ⟨-, rfl, -⟩ := name?_eq_some.mp h
  exact ⟨List.suffix_append name rest, (List.prefix_append name rest).isInfix⟩

theorem wholeKeyword?_append {keyword rest : Text}
    (hkeyword : ∀ letter ∈ keyword, isBlank letter = false ∧ isBlank letter.toLower = false)
    (hrest : ∀ c ∈ rest.head?, isBlank c = true) (text : Text) :
    wholeKeyword? keyword (text ++ rest) = (wholeKeyword? keyword text).map (· ++ rest) := by
  have hspells : ∀ letter ∈ keyword, ∀ c ∈ rest.head?, spells letter c = false := by
    intro letter hletter c hc
    obtain ⟨hupper, hlower⟩ := hkeyword letter hletter
    exact spells_eq_false_of_isBlank hupper hlower (hrest c hc)
  have hends : endsWord ∘ (· ++ rest) = endsWord := by
    funext behind
    exact endsWord_append (fun c hc => isWordCharacter_of_isBlank (hrest c hc)) behind
  rw [wholeKeyword?, wholeKeyword?, keyword?_append hspells, Option.filter_map, hends]

namespace TableLine

/-- A word that is read off a text. -/
structure IsWordOf (text word : Text) : Prop where
  ne_nil : word ≠ []
  isInfix : word <:+: text
  inside : ∀ c ∈ word, isWordCharacter c = true

theorem IsWordOf.mono {text whole word : Text} (h : IsWordOf text word) (htext : text <:+ whole) :
    IsWordOf whole word :=
  ⟨h.ne_nil, h.isInfix.trans htext.isInfix, h.inside⟩

theorem suffix_of_wordCharacters? {text word rest : Text}
    (h : wordCharacters? text = some (word, rest)) : rest <:+ text ∧ IsWordOf text word := by
  obtain ⟨hne, hinside, rfl, -⟩ := stretch_eq_some.mp h
  exact ⟨List.suffix_append _ _, hne, (List.prefix_append _ _).isInfix, hinside⟩

theorem suffix_of_method? {text rest : Text} {method : Option Text}
    (h : method? text = some (method, rest)) :
    rest <:+ text ∧ ∀ word ∈ method, IsWordOf text word := by
  rcases eq_some_of_orElse h with h | h
  · simp only [afterKeyword?, Option.bind_eq_bind, Option.bind_eq_some_iff] at h
    obtain ⟨behind, ⟨first, hfirst, hkeyword⟩, next, hnext, ⟨word, back⟩, hword, last, hopening,
      hresult⟩ := h
    obtain ⟨rfl, rfl⟩ := Prod.mk.inj (Option.some.inj hresult)
    have hbehind := (suffix_of_blanks? hnext).trans
      ((suffix_of_keyword? hkeyword).trans (suffix_of_blanks? hfirst))
    obtain ⟨hback, hmethod⟩ := suffix_of_wordCharacters? hword
    refine ⟨(suffix_of_opening? hopening).trans (hback.trans hbehind), ?_⟩
    rintro word ⟨⟩
    exact hmethod.mono hbehind
  · obtain ⟨last, hopening, hresult⟩ := Option.map_eq_some_iff.mp h
    obtain ⟨rfl, rfl⟩ := Prod.mk.inj hresult
    exact ⟨suffix_of_opening? hopening, by simp⟩

/-- A name that is read off a text. -/
def IsNameOf (text name : Text) : Prop := IsName name ∧ name <:+: text

theorem IsNameOf.mono {text whole name : Text} (h : IsNameOf text name) (htext : text <:+ whole) :
    IsNameOf whole name :=
  ⟨h.1, h.2.trans htext.isInfix⟩

theorem suffix_of_constraint? {read : Text → Option Text} {text found : Text}
    {name : Option Text} (hread : ∀ text found, read text = some found → found <:+ text)
    (h : constraint? read text = some (name, found)) :
    found <:+ text ∧ ∀ given ∈ name, IsNameOf text given := by
  rcases eq_some_of_orElse h with h | h
  · simp only [Option.bind_eq_bind, Option.bind_eq_some_iff] at h
    obtain ⟨rest, hkeyword, h⟩ := h
    have hrest := suffix_of_keyword? hkeyword
    rcases eq_some_of_orElse h with h | h
    · simp only [Option.bind_eq_some_iff] at h
      obtain ⟨behind, hblanks, ⟨given, back⟩, hname, next, hnext, last, hlast, hresult⟩ := h
      obtain ⟨rfl, rfl⟩ := Prod.mk.inj (Option.some.inj hresult)
      have hbehind := (suffix_of_blanks? hblanks).trans hrest
      obtain ⟨hback, hgiven⟩ := suffix_of_name? hname
      refine ⟨(hread _ _ hlast).trans ((suffix_of_blanks? hnext).trans (hback.trans hbehind)), ?_⟩
      rintro given ⟨⟩
      exact ⟨(name?_eq_some.mp hname).1, hgiven.trans hbehind.isInfix⟩
    · simp only [Option.bind_eq_some_iff] at h
      obtain ⟨behind, hblanks, last, hlast, hresult⟩ := h
      obtain ⟨rfl, rfl⟩ := Prod.mk.inj (Option.some.inj hresult)
      exact ⟨(hread _ _ hlast).trans ((suffix_of_blanks? hblanks).trans hrest), by simp⟩
  · obtain ⟨last, hlast, hresult⟩ := Option.map_eq_some_iff.mp h
    obtain ⟨rfl, rfl⟩ := Prod.mk.inj hresult
    exact ⟨hread _ _ hlast, by simp⟩

theorem suffix_of_foreignKeyParts? {text rest : Text} (h : foreignKeyParts? text = some rest) :
    rest <:+ text := by
  simp only [foreignKeyParts?, Option.bind_eq_bind, Option.bind_eq_some_iff] at h
  obtain ⟨behind, hkeywords, h⟩ := h
  refine List.IsSuffix.trans ?_ (suffix_of_keywords? hkeywords)
  rcases eq_some_of_orElse h with h | h
  · simp only [Option.bind_eq_some_iff] at h
    obtain ⟨first, hblanks, ⟨name, back⟩, hname, hopening⟩ := h
    exact (suffix_of_opening? hopening).trans
      ((suffix_of_name? hname).1.trans (suffix_of_blanks? hblanks))
  · exact suffix_of_opening? h

theorem suffix_of_reference? {text table rest : Text} (h : reference? text = some (table, rest)) :
    rest <:+ text ∧ IsNameOf text table := by
  simp only [reference?, Option.bind_eq_bind, Option.bind_eq_some_iff] at h
  obtain ⟨behind, hkeyword, first, hblanks, ⟨name, back⟩, hname, last, hopening, hresult⟩ := h
  obtain ⟨rfl, rfl⟩ := Prod.mk.inj (Option.some.inj hresult)
  have hfirst := (suffix_of_blanks? hblanks).trans (suffix_of_keyword? hkeyword)
  obtain ⟨hback, htable⟩ := suffix_of_name? hname
  exact ⟨(suffix_of_opening? hopening).trans (hback.trans hfirst),
    (name?_eq_some.mp hname).1, htable.trans hfirst.isInfix⟩

/-- The name of an index that is read off a text: the word `USING` is none. -/
def IsIndexNameOf (text name : Text) : Prop :=
  IsNameOf text name ∧ wholeKeyword? "USING" name = none

theorem suffix_of_indexTail? {text rest : Text} {name method : Option Text}
    (h : indexTail? text = some (name, method, rest)) : rest <:+ text ∧
      (∀ given ∈ name, IsIndexNameOf text given) ∧ ∀ word ∈ method, IsWordOf text word := by
  rcases eq_some_of_orElse h with h | h
  · simp only [Option.bind_eq_bind, Option.bind_eq_some_iff] at h
    obtain ⟨behind, hblanks, h⟩ := h
    have hbehind := suffix_of_blanks? hblanks
    split at h
    · cases h
    · rename_i husing
      simp only [Option.bind_eq_some_iff] at h
      obtain ⟨⟨given, back⟩, hname, next, hnext, ⟨word, last⟩, hmethod, hresult⟩ := h
      obtain ⟨rfl, hrest⟩ := Prod.mk.inj (Option.some.inj hresult)
      obtain ⟨rfl, rfl⟩ := Prod.mk.inj hrest
      obtain ⟨hgiven, rfl, -⟩ := name?_eq_some.mp hname
      obtain ⟨hback, hinfix⟩ := suffix_of_name? hname
      obtain ⟨hlast, hword⟩ := suffix_of_method? hmethod
      have hbackText := hback.trans hbehind
      refine ⟨hlast.trans hbackText, ?_, fun word hmem => ?_⟩
      · rintro given ⟨⟩
        refine ⟨⟨hgiven, hinfix.trans hbehind.isInfix⟩, ?_⟩
        obtain ⟨c, after, rfl, hc, -⟩ := exists_of_blanks? hnext
        rw [wholeKeyword?_append (by decide) (by simpa using hc)] at husing
        simpa using husing
      · exact (hword word hmem).mono hbackText
  · obtain ⟨⟨word, last⟩, hmethod, hresult⟩ := Option.map_eq_some_iff.mp h
    obtain ⟨rfl, hrest⟩ := Prod.mk.inj hresult
    obtain ⟨rfl, rfl⟩ := Prod.mk.inj hrest
    obtain ⟨hlast, hword⟩ := suffix_of_method? hmethod
    exact ⟨hlast, by simp, hword⟩

theorem suffix_of_indexHead? {line rest : Text} {kind : IndexKind} {name method : Option Text}
    (h : indexHead? line = some (kind, name, method, rest)) : rest <:+ line ∧
      (∀ given ∈ name, IsIndexNameOf line given) ∧ ∀ word ∈ method, IsWordOf line word := by
  obtain ⟨behind, hbehind, htail⟩ : ∃ behind, behind <:+ line ∧
      indexTail? behind = some (name, method, rest) := by
    rcases eq_some_of_orElse h with h | h
    · obtain ⟨word, -, h⟩ := List.exists_of_findSome?_eq_some h
      simp only [Option.bind_eq_bind, Option.bind_eq_some_iff] at h
      obtain ⟨behind, hkeyword, tail, htail, hresult⟩ := h
      obtain ⟨-, rfl⟩ := Prod.mk.inj (Option.some.inj hresult)
      have hbehind := suffix_of_keyword? hkeyword
      rcases eq_some_of_orElse htail with htail | htail
      · obtain ⟨text, hkey, htail⟩ := Option.bind_eq_some_iff.mp htail
        obtain ⟨first, hblanks, hkey⟩ := Option.bind_eq_some_iff.mp hkey
        exact ⟨text, (suffix_of_anyKeyword? hkey).trans
          ((suffix_of_blanks? hblanks).trans hbehind), htail⟩
      · exact ⟨behind, hbehind, htail⟩
    · simp only [Option.bind_eq_bind, Option.bind_eq_some_iff] at h
      obtain ⟨behind, hkeyword, tail, htail, hresult⟩ := h
      obtain ⟨-, rfl⟩ := Prod.mk.inj (Option.some.inj hresult)
      exact ⟨behind, suffix_of_anyKeyword? hkeyword, htail⟩
  obtain ⟨hrest, hname, hmethod⟩ := suffix_of_indexTail? htail
  exact ⟨hrest.trans hbehind,
    fun given hmem => ⟨(hname given hmem).1.mono hbehind, (hname given hmem).2⟩,
    fun word hmem => (hmethod word hmem).mono hbehind⟩

/-! ## Lines -/

/-- What is known of a line and what it is read as. -/
inductive Reads (line : Text) : TableLine → Prop
  | primaryKey {text inner rest : Text} {method : Option Text} (htext : text <:+ line)
      (hmethod : ∀ word ∈ method, IsWordOf line word)
      (hinner : parenthesised? text = some (inner, rest)) :
      Reads line (.primaryKey inner (keyOptions method rest))
  | foreignKey {text inner rest table refText refInner actions : Text} {name : Option Text}
      (htext : text <:+ line) (hname : ∀ given ∈ name, IsNameOf line given)
      (hinner : parenthesised? text = some (inner, rest)) (htable : IsNameOf rest table)
      (hrefText : refText <:+ rest)
      (hrefInner : parenthesised? refText = some (refInner, actions)) :
      Reads line (.foreignKey name inner table refInner actions)
  | check {text inner rest : Text} {name : Option Text} (htext : text <:+ line)
      (hname : ∀ given ∈ name, IsNameOf line given)
      (hinner : parenthesised? text = some (inner, rest)) : Reads line (.check name inner rest)
  | index {text inner rest : Text} {name method : Option Text} (kind : IndexKind)
      (htext : text <:+ line) (hname : ∀ given ∈ name, IsIndexNameOf line given)
      (hmethod : ∀ word ∈ method, IsWordOf line word)
      (hinner : parenthesised? text = some (inner, rest)) :
      Reads line (.index name kind inner (keyOptions method rest))
  | terminator {rest : Text} (hline : line = ')' :: rest) : Reads line (.terminator (trim rest))
  | column {name rest : Text} (hline : line = name ++ rest) (hne : name ≠ [])
      (hname : ∀ c ∈ name, isBlank c = false) : Reads line (.column name (trim rest))
  | unrecognised : Reads line (.unrecognised line)

theorem reads_of_primaryKey? {line : Text} {found : TableLine}
    (h : primaryKey? line = some found) : Reads line found := by
  simp only [primaryKey?, Option.bind_eq_bind, Option.bind_eq_some_iff] at h
  obtain ⟨behind, hkeywords, ⟨method, rest⟩, hmethod, h⟩ := h
  have hbehind := suffix_of_keywords? hkeywords
  obtain ⟨hrest, hword⟩ := suffix_of_method? hmethod
  split at h
  · obtain rfl := Option.some.inj h
    exact .unrecognised
  · rename_i inner last hinner
    obtain rfl := Option.some.inj h
    exact .primaryKey (hrest.trans hbehind) (fun word hmem => (hword word hmem).mono hbehind) hinner

theorem reads_of_foreignKey? {line : Text} {found : TableLine}
    (h : foreignKey? line = some found) : Reads line found := by
  simp only [foreignKey?, Option.bind_eq_bind, Option.bind_eq_some_iff] at h
  obtain ⟨⟨name, text⟩, hconstraint, h⟩ := h
  obtain ⟨htext, hname⟩ := suffix_of_constraint? (fun _ _ => suffix_of_foreignKeyParts?) hconstraint
  obtain rfl := Option.some.inj h
  generalize hread : (parenthesised? text).bind _ = read
  cases read with
  | none => exact .unrecognised
  | some found =>
      simp only [Option.bind_eq_some_iff] at hread
      obtain ⟨⟨inner, rest⟩, hinner, ⟨table, refText⟩, hreference, ⟨refInner, actions⟩, hrefInner,
        hresult⟩ := hread
      obtain ⟨hrefText, htable⟩ := suffix_of_reference? hreference
      obtain rfl := Option.some.inj hresult
      exact .foreignKey htext hname hinner htable hrefText hrefInner

theorem reads_of_check? {line : Text} {found : TableLine} (h : check? line = some found) :
    Reads line found := by
  simp only [check?, Option.bind_eq_bind, Option.bind_eq_some_iff] at h
  obtain ⟨⟨name, text⟩, hconstraint, h⟩ := h
  have hread (text found : Text)
      (hfound : (keyword? "CHECK" text).bind opening? = some found) : found <:+ text := by
    obtain ⟨behind, hkeyword, hopening⟩ := Option.bind_eq_some_iff.mp hfound
    exact (suffix_of_opening? hopening).trans (suffix_of_keyword? hkeyword)
  obtain ⟨htext, hname⟩ := suffix_of_constraint? hread hconstraint
  split at h
  · obtain rfl := Option.some.inj h
    exact .unrecognised
  · rename_i inner rest hinner
    obtain rfl := Option.some.inj h
    exact .check htext hname hinner

theorem reads_of_index? {line : Text} {found : TableLine} (h : index? line = some found) :
    Reads line found := by
  simp only [index?, Option.bind_eq_bind, Option.bind_eq_some_iff] at h
  obtain ⟨⟨kind, name, method, text⟩, hhead, ⟨inner, rest⟩, hinner, hresult⟩ := h
  obtain ⟨htext, hname, hmethod⟩ := suffix_of_indexHead? hhead
  obtain rfl := Option.some.inj hresult
  exact .index kind htext hname hmethod hinner

theorem reads_of_column? {line : Text} {found : TableLine} (h : column? line = some found) :
    Reads line found := by
  simp only [column?, word?, Option.bind_eq_bind, Option.bind_eq_some_iff] at h
  obtain ⟨⟨name, rest⟩, hword, h⟩ := h
  split at hword
  · cases hword
  · rename_i hne
    obtain ⟨rfl, rfl⟩ := Prod.mk.inj (Option.some.inj hword)
    split at h
    · cases h
    · obtain rfl := Option.some.inj h
      refine .column List.takeWhile_append_dropWhile.symm (by simpa using hne) ?_
      exact fun c hc => by simpa using List.mem_takeWhile_imp hc

/-- What is known of a line, whatever it is read as. -/
theorem reads_ofText (text : Text) : Reads (trim text) (ofText text) := by
  rw [ofText]
  generalize trim text = line
  generalize hread : (primaryKey? line <|> foreignKey? line <|> check? line <|> index? line <|>
    terminator? line <|> column? line) = read
  cases read with
  | none => exact .unrecognised
  | some found =>
      rcases eq_some_of_orElse hread with h | h
      · exact reads_of_primaryKey? h
      rcases eq_some_of_orElse h with h | h
      · exact reads_of_foreignKey? h
      rcases eq_some_of_orElse h with h | h
      · exact reads_of_check? h
      rcases eq_some_of_orElse h with h | h
      · exact reads_of_index? h
      rcases eq_some_of_orElse h with h | h
      · unfold terminator? at h
        split at h
        · obtain rfl := Option.some.inj h
          exact .terminator rfl
        · cases h
      · exact reads_of_column? h

/-! ## Options -/

theorem keyOptions_none (rest : Text) : keyOptions none rest = rest := by
  cases rest <;> rfl

theorem keyOptions_some (word rest : Text) :
    keyOptions (some word) rest = "USING ".toList ++ upper word ++ spaced rest := by
  cases rest with
  | nil => simp [keyOptions, join, spaced]
  | cons c rest => simp [keyOptions, join, spaced]

/-- The method of a key has no blanks in upper case either. -/
theorem IsWordOf.isBlank_of_mem_upper {line word : Text} (h : IsWordOf line word) :
    ∀ c ∈ upper word, isBlank c = false := by
  refine SchemaMigration.isBlank_of_mem_upper fun c hc => Bool.eq_false_iff.mpr fun hblank => ?_
  have hinside := h.inside c hc
  rw [isWordCharacter_of_isBlank hblank] at hinside
  cases hinside

/-- Options begin and end without blanks if what stands behind the parentheses does. -/
theorem trim_keyOptions {line rest : Text} {method : Option Text}
    (hmethod : ∀ word ∈ method, IsWordOf line word) (hrest : trim rest = rest) :
    trim (keyOptions method rest) = keyOptions method rest := by
  cases method with
  | none => rw [keyOptions_none, hrest]
  | some word =>
      have hword := hmethod word rfl
      rw [keyOptions_some]
      refine trim_eq_self ?_ ?_
      · intro c hc
        obtain rfl : 'U' = c := by simpa using hc
        decide
      · intro c hc
        cases rest with
        | nil =>
            rw [show spaced [] = [] from rfl, List.append_nil,
              List.getLast?_append_of_ne_nil _ (upper_ne_nil hword.ne_nil)] at hc
            exact hword.isBlank_of_mem_upper c (List.mem_of_mem_getLast? hc)
        | cons d rest =>
            have hlast : ((d :: rest).getLast?) = some c := by
              simpa [spaced, List.getLast?_append, List.getLast?_cons] using hc
            rw [← hrest] at hlast
            exact getLast?_trim c hlast

theorem newline_notMem_keyOptions {line rest : Text} {method : Option Text}
    (hmethod : ∀ word ∈ method, IsWordOf line word) (hrest : '\n' ∉ rest) :
    '\n' ∉ keyOptions method rest := by
  cases method with
  | none => rwa [keyOptions_none]
  | some word =>
      have hupper : '\n' ∉ upper word := fun hmem => by
        have hblank := (hmethod word rfl).isBlank_of_mem_upper _ hmem
        exact absurd hblank (by decide)
      have hspaced : '\n' ∉ spaced rest := by
        rw [spaced]
        split
        · simp
        · simpa using hrest
      rw [keyOptions_some]
      simp [hupper, hspaced]

/-! ## What a line of each sort guarantees -/

theorem enclosed_of_parenthesised? {text inner rest : Text}
    (h : parenthesised? text = some (inner, rest)) : IsEnclosed inner ∧ trim rest = rest := by
  obtain ⟨hinner, behind, -, rfl⟩ := parenthesised?_eq_some.mp h
  exact ⟨hinner, trim_trim behind⟩

namespace Reads

variable {line partsText options : Text} {name : Option Text}

theorem of_primaryKey (h : Reads line (.primaryKey partsText options)) :
    IsEnclosed partsText ∧ trim options = options := by
  cases h with
  | primaryKey _ hmethod hinner =>
      obtain ⟨henclosed, hrest⟩ := enclosed_of_parenthesised? hinner
      exact ⟨henclosed, trim_keyOptions hmethod hrest⟩

theorem of_index {kind : IndexKind} (h : Reads line (.index name kind partsText options)) :
    (∀ given ∈ name, IsIndexNameOf line given) ∧ IsEnclosed partsText ∧
      trim options = options := by
  cases h with
  | index _ _ hname hmethod hinner =>
      obtain ⟨henclosed, hrest⟩ := enclosed_of_parenthesised? hinner
      exact ⟨hname, henclosed, trim_keyOptions hmethod hrest⟩

theorem of_foreignKey {refTable refPartsText actions : Text}
    (h : Reads line (.foreignKey name partsText refTable refPartsText actions)) :
    (∀ given ∈ name, IsNameOf line given) ∧ IsEnclosed partsText ∧ IsName refTable ∧
      IsEnclosed refPartsText ∧ trim actions = actions := by
  cases h with
  | foreignKey _ hname hinner htable _ hrefInner =>
      obtain ⟨henclosed, -⟩ := enclosed_of_parenthesised? hinner
      obtain ⟨hrefEnclosed, hactions⟩ := enclosed_of_parenthesised? hrefInner
      exact ⟨hname, henclosed, htable.1, hrefEnclosed, hactions⟩

theorem of_check {expression : Text} (h : Reads line (.check name expression options)) :
    (∀ given ∈ name, IsNameOf line given) ∧ IsEnclosed expression ∧ trim options = options := by
  cases h with
  | check _ hname hinner =>
      obtain ⟨henclosed, hrest⟩ := enclosed_of_parenthesised? hinner
      exact ⟨hname, henclosed, hrest⟩

end Reads

/-! ## Texts -/

/-- What is read between parentheses is a part of the text, and so is what stands behind them. -/
theorem infix_of_parenthesised? {text inner rest : Text}
    (h : parenthesised? text = some (inner, rest)) : inner <:+: text ∧ rest <:+: text := by
  obtain ⟨-, behind, rfl, rfl⟩ := parenthesised?_eq_some.mp h
  refine ⟨⟨['('], ')' :: behind, by simp⟩, ?_⟩
  refine (trim_isInfix behind).trans (List.IsSuffix.isInfix ?_)
  exact (List.suffix_cons ')' behind).trans (List.suffix_append _ _)

/-- The texts that are kept of a line. -/
def texts : TableLine → List Text
  | primaryKey partsText options => [partsText, options]
  | foreignKey name partsText refTable refPartsText actions =>
    name.toList ++ [partsText, refTable, refPartsText, actions]
  | check name expression options => name.toList ++ [expression, options]
  | index name _ partsText options => name.toList ++ [partsText, options]
  | terminator options => [options]
  | column name definition => [name, definition]
  | unrecognised text => [text]

/-- What is read off one line has no newline. -/
theorem Reads.newline_notMem {line : Text} {found : TableLine} (h : Reads line found)
    (hline : '\n' ∉ line) : ∀ text ∈ found.texts, '\n' ∉ text := by
  have hpart {text : Text} (htext : text <:+: line) : '\n' ∉ text :=
    fun hmem => hline (htext.subset hmem)
  have htrim {text : Text} (htext : text <:+ line) : '\n' ∉ trim text :=
    hpart ((trim_isInfix text).trans htext.isInfix)
  cases h with
  | primaryKey htext hmethod hinner =>
      obtain ⟨hin, hrest⟩ := infix_of_parenthesised? hinner
      have hoptions := newline_notMem_keyOptions hmethod (hpart (hrest.trans htext.isInfix))
      simpa [texts] using ⟨hpart (hin.trans htext.isInfix), hoptions⟩
  | foreignKey htext hname hinner htable hrefText hrefInner =>
      obtain ⟨hin, hrest⟩ := infix_of_parenthesised? hinner
      obtain ⟨hrefIn, hactions⟩ := infix_of_parenthesised? hrefInner
      have hrestLine := hrest.trans htext.isInfix
      have hrefLine := hrefText.isInfix.trans hrestLine
      simp only [texts, List.forall_mem_append, List.forall_mem_cons]
      refine ⟨fun given hgiven => hpart (hname given (by simpa using hgiven)).2,
        hpart (hin.trans htext.isInfix), hpart (htable.2.trans hrestLine),
        hpart (hrefIn.trans hrefLine), hpart (hactions.trans hrefLine), by simp⟩
  | check htext hname hinner =>
      obtain ⟨hin, hrest⟩ := infix_of_parenthesised? hinner
      simp only [texts, List.forall_mem_append, List.forall_mem_cons]
      exact ⟨fun given hgiven => hpart (hname given (by simpa using hgiven)).2,
        hpart (hin.trans htext.isInfix), hpart (hrest.trans htext.isInfix), by simp⟩
  | index kind htext hname hmethod hinner =>
      obtain ⟨hin, hrest⟩ := infix_of_parenthesised? hinner
      have hoptions := newline_notMem_keyOptions hmethod (hpart (hrest.trans htext.isInfix))
      simp only [texts, List.forall_mem_append, List.forall_mem_cons]
      exact ⟨fun given hgiven => hpart (hname given (by simpa using hgiven)).1.2,
        hpart (hin.trans htext.isInfix), hoptions, by simp⟩
  | terminator hline => 
      subst hline
      simpa [texts] using htrim (List.suffix_cons _ _)
  | column hline hne hname =>
      subst hline
      simpa [texts] using ⟨hpart (List.prefix_append _ _).isInfix, htrim (List.suffix_append _ _)⟩
  | unrecognised => simpa [texts] using hline

end TableLine

end SchemaMigration
