import SchemaMigration.Migration.TableChange
import SchemaMigration.Proofs.Table.Origin

/-!
# Clauses of keys

A key is added by a clause, which is written like a line of a table body. Where the clause reads
back as a line, it is the line of that key: with its name, parts and options. Two things can come
between: a name that is chosen for a key may have a parenthesis or be the word `USING`, and a unique
index may have the name `KEY` or `INDEX`, which is read as part of the keywords in front of it.

## Main Definitions

* `TableChange.addition` - the clause of a change without the word that adds something
* `Index.ReadsBack` and its likes - reading that clause gives the key
* `Table.readsBack_iff` - when it does, for each key of a table that was read
-/

namespace SchemaMigration

open Text

/-! ## Reading the beginning of a clause -/

namespace TableLine

theorem method?_opening (rest : Text) :
    method? (' ' :: '(' :: rest) = some (none, '(' :: rest) := rfl

/-- The name of an index and the parenthesis behind it. -/
theorem indexTail?_name {name : Text} (h : IsName name) (husing : wholeKeyword? "USING" name = none)
    (rest : Text) : indexTail? (' ' :: (name ++ ' ' :: '(' :: rest)) =
      some (some name, none, '(' :: rest) := by
  have hblanks := blanks?_space fun c hc => (h.head? (' ' :: '(' :: rest) c hc).1
  have hwhole : wholeKeyword? "USING" (name ++ ' ' :: '(' :: rest) = none := by
    rw [wholeKeyword?_append (by decide) (by rintro c ⟨⟩; rfl), husing]
    rfl
  have hname : name? (name ++ ' ' :: '(' :: rest) = some (name, ' ' :: '(' :: rest) :=
    name?_eq_some.mpr ⟨h, rfl, by rintro c ⟨⟩; exact .inl rfl⟩
  simp only [indexTail?, hblanks, Option.bind_eq_bind, Option.bind_some, hwhole, hname]
  rfl

/-- Without a name there is only the parenthesis. -/
theorem indexTail?_opening (rest : Text) :
    indexTail? (' ' :: '(' :: rest) = some (none, none, '(' :: rest) := rfl

/-- The rest of a longer name is neither a name nor a parenthesis. -/
theorem indexTail?_eq_none {text : Text} (hne : text ≠ [])
    (h : ∀ c ∈ text.head?, isBlank c = false ∧ c ≠ '(') : indexTail? text = none := by
  obtain ⟨c, text, rfl⟩ := List.exists_cons_of_ne_nil hne
  obtain ⟨hblank, hopen⟩ := h c rfl
  have hblanks : blanks? (c :: text) = none := by simp [blanks?, hblank]
  have hopening : opening? (c :: text) = none := by
    have htrim : trimLeft (c :: text) = c :: text := by simp [trimLeft, hblank]
    rw [opening?, htrim]
    split
    · rename_i hcons
      exact absurd (List.cons.inj hcons).1 hopen
    · rfl
  simp [indexTail?, hblanks, method?, afterKeyword?, hopening]

section

variable {rest : Text} {tail : Option Text × Option Text × Text} (h : indexTail? rest = some tail)

include h

theorem indexHead?_plain : indexHead? ("INDEX".toList ++ rest) = some (.plain, tail) := by
  have hkeyword : anyKeyword? ["KEY", "INDEX"] ("INDEX".toList ++ rest) = some rest := rfl
  have hunique : keyword? "UNIQUE" ("INDEX".toList ++ rest) = none := rfl
  have hfulltext : keyword? "FULLTEXT" ("INDEX".toList ++ rest) = none := rfl
  have hspatial : keyword? "SPATIAL" ("INDEX".toList ++ rest) = none := rfl
  simp only [indexHead?, List.findSome?_cons, hunique, hfulltext, hspatial, hkeyword, h,
    Option.bind_eq_bind, Option.bind_none, Option.bind_some]
  rfl

/-- Behind `UNIQUE`, and only there, could be more keywords. -/
theorem indexHead?_unique
    (hkey : ((blanks? rest).bind (anyKeyword? ["KEY", "INDEX"])).bind indexTail? = none) :
    indexHead? ("UNIQUE".toList ++ rest) = some (.unique, tail) := by
  have hkeyword : keyword? "UNIQUE" ("UNIQUE".toList ++ rest) = some rest := rfl
  have hkind : indexKind "UNIQUE" = .unique := by decide +kernel
  simp only [indexHead?, List.findSome?_cons, hkeyword, h, hkey, before_append, hkind,
    Option.bind_eq_bind, Option.bind_some]
  rfl

theorem indexHead?_fulltext :
    indexHead? ("FULLTEXT".toList ++ (" INDEX".toList ++ rest)) = some (.fulltext, tail) := by
  have hkeyword (text : Text) : keyword? "FULLTEXT" ("FULLTEXT".toList ++ text) = some text := rfl
  have hunique (text : Text) : keyword? "UNIQUE" ("FULLTEXT".toList ++ text) = none := rfl
  have hblanks : blanks? (" INDEX".toList ++ rest) = some ("INDEX".toList ++ rest) := rfl
  have hindex : anyKeyword? ["KEY", "INDEX"] ("INDEX".toList ++ rest) = some rest := rfl
  have hkind : indexKind "FULLTEXT" = .fulltext := by decide +kernel
  simp only [indexHead?, List.findSome?_cons, hunique, hkeyword, hblanks, hindex, h, before_append,
    hkind, Option.bind_eq_bind, Option.bind_none, Option.bind_some]
  rfl

theorem indexHead?_spatial :
    indexHead? ("SPATIAL".toList ++ (" INDEX".toList ++ rest)) = some (.spatial, tail) := by
  have hkeyword (text : Text) : keyword? "SPATIAL" ("SPATIAL".toList ++ text) = some text := rfl
  have hunique (text : Text) : keyword? "UNIQUE" ("SPATIAL".toList ++ text) = none := rfl
  have hfulltext (text : Text) : keyword? "FULLTEXT" ("SPATIAL".toList ++ text) = none := rfl
  have hblanks : blanks? (" INDEX".toList ++ rest) = some ("INDEX".toList ++ rest) := rfl
  have hindex : anyKeyword? ["KEY", "INDEX"] ("INDEX".toList ++ rest) = some rest := rfl
  have hkind : indexKind "SPATIAL" = .spatial := by decide +kernel
  simp only [indexHead?, List.findSome?_cons, hunique, hfulltext, hkeyword, hblanks, hindex, h,
    before_append, hkind, Option.bind_eq_bind, Option.bind_none, Option.bind_some]
  rfl

/-- The keywords of an index, and what is read behind them. -/
theorem indexHead?_keyword {kind : IndexKind} (hkey : kind = .unique →
      ((blanks? rest).bind (anyKeyword? ["KEY", "INDEX"])).bind indexTail? = none) :
    indexHead? (kind.keyword ++ rest) = some (kind, tail) := by
  cases kind with
  | plain => exact indexHead?_plain h
  | unique => exact indexHead?_unique h (hkey rfl)
  | fulltext => exact indexHead?_fulltext h
  | spatial => exact indexHead?_spatial h

end

/-- A name that goes on behind `KEY` or `INDEX`, or begins with neither, is not read as one. -/
theorem indexTail?_behindKeyword {name : Text} (h : IsName name)
    (hkey : anyKeyword? ["KEY", "INDEX"] name ≠ some []) (rest : Text) :
    ((blanks? (' ' :: (name ++ ' ' :: rest))).bind (anyKeyword? ["KEY", "INDEX"])).bind indexTail?
      = none := by
  rw [blanks?_space fun c hc => (h.head? _ c hc).1, Option.bind_some,
    (stopsAt_anyKeyword? (by decide)).append]
  cases hname : anyKeyword? ["KEY", "INDEX"] name with
  | none => rfl
  | some behind =>
      have hbehind : behind ≠ [] := fun hnil => hkey (hnil ▸ hname)
      obtain ⟨c, behind, rfl⟩ := List.exists_cons_of_ne_nil hbehind
      refine indexTail?_eq_none (by simp) ?_
      rintro d ⟨⟩
      exact h.inside c ((suffix_of_anyKeyword? hname).subset (by simp))

theorem indexHead?_unique_key {name : Text} (h : IsName name)
    (hkey : anyKeyword? ["KEY", "INDEX"] name = some []) (rest : Text) :
    indexHead? ("UNIQUE".toList ++ ' ' :: (name ++ ' ' :: '(' :: rest)) =
      some (.unique, none, none, '(' :: rest) := by
  have hkeyword (text : Text) : keyword? "UNIQUE" ("UNIQUE".toList ++ text) = some text := rfl
  have hblanks := blanks?_space fun c hc => (h.head? (' ' :: '(' :: rest) c hc).1
  have hindex : anyKeyword? ["KEY", "INDEX"] (name ++ ' ' :: '(' :: rest) =
      some (' ' :: '(' :: rest) := by
    rw [(stopsAt_anyKeyword? (by decide)).append, hkey]
    rfl
  have hkind : indexKind "UNIQUE" = .unique := by decide +kernel
  simp only [indexHead?, List.findSome?_cons, hkeyword, hblanks, hindex, indexTail?_opening,
    before_append, hkind, Option.bind_eq_bind, Option.bind_some]
  rfl

/-- No other reader reads a line that begins with the keywords of an index. -/
theorem ofText_index {kind keywordKind : IndexKind} {rest text inner options : Text}
    {name : Option Text} (htrim : trim (keywordKind.keyword ++ rest) = keywordKind.keyword ++ rest)
    (hhead : indexHead? (keywordKind.keyword ++ rest) = some (kind, name, none, text))
    (hinner : parenthesised? text = some (inner, options)) :
    ofText (keywordKind.keyword ++ rest) = .index name kind inner options := by
  have hindex : index? (keywordKind.keyword ++ rest) = some (.index name kind inner options) := by
    simp only [index?, hhead, hinner, Option.bind_eq_bind, Option.bind_some, keyOptions_none]
    rfl
  have hprimary : primaryKey? (keywordKind.keyword ++ rest) = none := by cases keywordKind <;> rfl
  have hforeign : foreignKey? (keywordKind.keyword ++ rest) = none := by cases keywordKind <;> rfl
  have hcheck : check? (keywordKind.keyword ++ rest) = none := by cases keywordKind <;> rfl
  simp only [ofText, htrim, hprimary, hforeign, hcheck, hindex]
  rfl

section

variable {α : Type} {read : Text → Option α} {name rest : Text} (h : IsName name)
  (hrest : ∀ c ∈ rest.head?, isBlank c = false)

include h hrest

/-- A constraint is read behind its name, or at the name, or from the first keyword on. -/
theorem constraint?_append :
    constraint? read ("CONSTRAINT".toList ++ ' ' :: (name ++ ' ' :: rest)) =
      ((((read rest).map fun found => (some name, found)) <|>
          (read (name ++ ' ' :: rest)).map fun found => (none, found)) <|>
        (read ("CONSTRAINT".toList ++ ' ' :: (name ++ ' ' :: rest))).map fun found =>
          (none, found)) := by
  have hkeyword (text : Text) : keyword? "CONSTRAINT" ("CONSTRAINT".toList ++ text) = some text :=
    rfl
  have hblanks := blanks?_space fun c hc => (h.head? (' ' :: rest) c hc).1
  have hname : name? (name ++ ' ' :: rest) = some (name, ' ' :: rest) :=
    name?_eq_some.mpr ⟨h, rfl, by rintro c ⟨⟩; exact .inl rfl⟩
  simp only [constraint?, hkeyword, hblanks, hname, blanks?_space hrest, Option.bind_eq_bind,
    Option.bind_some, Option.map_eq_bind]
  rfl

theorem constraint?_name {found : α} (hread : read rest = some found) :
    constraint? read ("CONSTRAINT".toList ++ ' ' :: (name ++ ' ' :: rest)) =
      some (some name, found) := by
  rw [constraint?_append h hrest, hread]
  rfl

/-- No constraint is read that begins neither at the name nor behind it. -/
theorem constraint?_eq_none (hread : read rest = none) (hfirst : read (name ++ ' ' :: rest) = none)
    (hwhole : ∀ text, read ("CONSTRAINT".toList ++ text) = none) :
    constraint? read ("CONSTRAINT".toList ++ ' ' :: (name ++ ' ' :: rest)) = none := by
  rw [constraint?_append h hrest, hread, hfirst, hwhole]
  rfl

end

/-- The table that a reference names, and its parts behind it. -/
theorem reference?_name {table : Text} (h : IsName table) (rest : Text) :
    reference? ("REFERENCES".toList ++ ' ' :: (table ++ ' ' :: '(' :: rest)) =
      some (table, '(' :: rest) := by
  have hkeyword (text : Text) : keyword? "REFERENCES" ("REFERENCES".toList ++ text) = some text :=
    rfl
  have hblanks := blanks?_space fun c hc => (h.head? (' ' :: '(' :: rest) c hc).1
  have hname : name? (table ++ ' ' :: '(' :: rest) = some (table, ' ' :: '(' :: rest) :=
    name?_eq_some.mpr ⟨h, rfl, by rintro c ⟨⟩; exact .inl rfl⟩
  simp only [reference?, hkeyword, hblanks, hname, Option.bind_eq_bind, Option.bind_some]
  rfl

theorem foreignKeyParts?_opening (rest : Text) :
    foreignKeyParts? ("FOREIGN KEY ".toList ++ '(' :: rest) = some ('(' :: rest) := rfl

/-- A constraint of the name `FOREIGN` is no foreign key for that. -/
theorem foreignKeyParts?_check {name : Text} (h : IsName name) (rest : Text) :
    foreignKeyParts? (name ++ ' ' :: ("CHECK ".toList ++ rest)) = none := by
  have hkeywords : keywords? ["FOREIGN", "KEY"] (name ++ ' ' :: ("CHECK ".toList ++ rest)) =
      none := by
    have hkeyword : StopsAt ' ' (keyword? "FOREIGN") := stopsAt_keyword? (by decide)
    simp only [keywords?, hkeyword.append]
    cases hname : keyword? "FOREIGN" name with
    | none => rfl
    | some behind =>
        cases behind with
        | nil => rfl
        | cons c behind =>
            have hc := (h.inside c ((suffix_of_keyword? hname).subset (by simp))).1
            simp [blanks?, hc]
  simp only [foreignKeyParts?, hkeywords, Option.bind_eq_bind, Option.bind_none]

end TableLine

/-! ## Clauses -/

/-- A clause ends at the parenthesis of its last list, or with the options behind that. -/
theorem trim_closing (front : Text) {options : Text} (hne : front ≠ [])
    (hfront : ∀ c ∈ front.head?, isBlank c = false) (hoptions : trim options = options) :
    trim (front ++ ')' :: spaced options) = front ++ ')' :: spaced options := by
  refine trim_eq_self ?_ fun c hc => ?_
  · rwa [List.head?_append_of_ne_nil _ hne]
  · cases options with
    | nil =>
        obtain rfl : ')' = c := by simpa [spaced] using hc
        decide
    | cons d options =>
        have hlast : (d :: options).getLast? = some c := by
          simpa [spaced, List.getLast?_append, List.getLast?_cons] using hc
        rw [← hoptions] at hlast
        exact getLast?_trim c hlast

theorem trim_space (text : Text) : trim (' ' :: text) = trim text := rfl

theorem trim_spaced (text : Text) : trim (spaced text) = trim text := by
  cases text <;> rfl

theorem partsText_append (parts : List Text) (rest : Text) :
    partsText parts ++ rest = '(' :: (join "," parts ++ ')' :: rest) := by
  simp [partsText]

/-- The clause of a change without the word that adds something. -/
def TableChange.addition (change : TableChange) : Text := change.clause.drop 4

theorem TableChange.addition_of_clause {change : TableChange} {text : Text}
    (h : change.clause = "ADD " ++ text) : change.addition = text := by
  rw [addition, h]
  rfl

/-- Reading the clause of an index gives the index. -/
def Index.ReadsBack (index : Index) : Prop := ∃ partsText,
  TableLine.ofText (TableChange.addIndex index).addition =
    .index (some index.name) index.kind partsText index.options ∧
  listItems partsText = index.parts

/-- Reading the clause of a primary key gives the key. -/
def PrimaryKey.ReadsBack (key : PrimaryKey) : Prop := ∃ partsText,
  TableLine.ofText (TableChange.addPrimaryKey key).addition =
    .primaryKey partsText key.options ∧
  listItems partsText = key.parts

/-- Reading the clause of a foreign key gives the key. -/
def ForeignKey.ReadsBack (key : ForeignKey) : Prop := ∃ partsText refPartsText,
  TableLine.ofText (TableChange.addForeignKey key).addition =
    .foreignKey (some key.name) partsText key.refTable refPartsText key.actions ∧
  listItems partsText = key.parts ∧ listItems refPartsText = key.refParts

/-- Reading the clause of a check constraint gives the constraint. -/
def CheckConstraint.ReadsBack (check : CheckConstraint) : Prop :=
  TableLine.ofText (TableChange.addCheck check).addition =
    .check (some check.name) check.expression check.options

/-! ## Indexes -/

/-- An index whose name its clause shows as a name: it goes up to the blank behind it, is not the
word in front of a method, and behind `UNIQUE` is no keyword of an index either. -/
structure Index.IsNamedApart (index : Index) : Prop where
  isName : IsName index.name
  using_eq_none : wholeKeyword? "USING" index.name = none
  key_ne : index.kind = .unique → anyKeyword? ["KEY", "INDEX"] index.name ≠ some []

theorem Index.addition_eq (index : Index) : (TableChange.addIndex index).addition =
    index.kind.keyword ++ ' ' ::
      (index.name ++ ' ' :: (partsText index.parts ++ spaced index.options)) := by
  have hclause : (TableChange.addIndex index).clause = "ADD " ++ index.clause := rfl
  rw [TableChange.addition_of_clause hclause]
  simp [Index.clause]

section

variable {index : Index} {text : Text} (henclosed : IsEnclosed text)
  (hparts : index.parts = listItems text) (hoptions : trim index.options = index.options)

include henclosed hparts hoptions

/-- What the clause of an index is read as, if its keywords and its name are read. -/
theorem Index.ofText_addition {kind : IndexKind} {name : Option Text}
    (hhead : ∀ rest, TableLine.indexHead? (index.kind.keyword ++ ' ' ::
      (index.name ++ ' ' :: '(' :: rest)) = some (kind, name, none, '(' :: rest)) :
    ∃ inner, TableLine.ofText (TableChange.addIndex index).addition =
      .index name kind inner index.options ∧ listItems inner = index.parts := by
  obtain ⟨inner, hinner, hitems⟩ := henclosed.partsText (spaced index.options)
  rw [trim_spaced, hoptions, ← hparts] at hinner
  refine ⟨inner, ?_, hitems.trans hparts.symm⟩
  rw [Index.addition_eq]
  have hhead' := hhead (join "," index.parts ++ ')' :: spaced index.options)
  rw [← partsText_append] at hhead'
  refine TableLine.ofText_index ?_ hhead' hinner
  have hkeyword : index.kind.keyword ≠ [] ∧
      ∀ c ∈ index.kind.keyword.head?, isBlank c = false := by
    cases index.kind <;> exact ⟨by decide, by rintro c ⟨⟩; rfl⟩
  have htrim := trim_closing (index.kind.keyword ++ ' ' ::
      (index.name ++ ' ' :: '(' :: join "," index.parts)) (by simp)
    (by rw [List.head?_append_of_ne_nil _ hkeyword.1]; exact hkeyword.2) hoptions
  simpa [partsText_append] using htrim

theorem Index.readsBack_iff_isNamedApart : index.ReadsBack ↔ index.IsNamedApart := by
  constructor
  · rintro ⟨inner, hread, hitems⟩
    have hreads := TableLine.reads_ofText (TableChange.addIndex index).addition
    rw [hread] at hreads
    obtain ⟨⟨hname, -⟩, husing⟩ := hreads.of_index.1 _ rfl
    refine ⟨hname, husing, fun hkind hkey => ?_⟩
    -- the name is read as a keyword
    obtain ⟨inner', hread', -⟩ := Index.ofText_addition henclosed hparts hoptions fun rest => by
      rw [hkind]
      exact TableLine.indexHead?_unique_key hname hkey rest
    rw [hread] at hread'
    cases hread'
  · rintro ⟨hname, husing, hkey⟩
    refine Index.ofText_addition henclosed hparts hoptions fun rest => ?_
    refine TableLine.indexHead?_keyword (TableLine.indexTail?_name hname husing rest)
      fun hkind => ?_
    exact TableLine.indexTail?_behindKeyword hname (hkey hkind) ('(' :: rest)

end

/-! ## Constraints -/

theorem PrimaryKey.addition_eq (key : PrimaryKey) : (TableChange.addPrimaryKey key).addition =
    "PRIMARY KEY".toList ++ ' ' :: (partsText key.parts ++ spaced key.options) := by
  have hclause : (TableChange.addPrimaryKey key).clause =
      "ADD " ++ ("PRIMARY KEY ".toList ++ key.describe) := rfl
  rw [TableChange.addition_of_clause hclause]
  simp [PrimaryKey.describe]

theorem PrimaryKey.readsBack {key : PrimaryKey} {text : Text} (henclosed : IsEnclosed text)
    (hparts : key.parts = listItems text) (hoptions : trim key.options = key.options) :
    key.ReadsBack := by
  obtain ⟨inner, hinner, hitems⟩ := henclosed.partsText (spaced key.options)
  rw [trim_spaced, hoptions, ← hparts] at hinner
  refine ⟨inner, ?_, hitems.trans hparts.symm⟩
  have htrim : trim (TableChange.addPrimaryKey key).addition =
      (TableChange.addPrimaryKey key).addition := by
    have htrim := trim_closing ("PRIMARY KEY (".toList ++ join "," key.parts) (by simp)
      (by rintro c ⟨⟩; decide) hoptions
    simpa [key.addition_eq, partsText_append] using htrim
  have hkeywords (rest : Text) :
      keywords? ["PRIMARY", "KEY"] ("PRIMARY KEY".toList ++ rest) = some rest := rfl
  rw [TableLine.ofText, htrim, key.addition_eq]
  rw [partsText_append] at hinner ⊢
  simp only [TableLine.primaryKey?, hkeywords, TableLine.method?_opening, hinner,
    TableLine.keyOptions_none, Option.bind_eq_bind, Option.bind_some]
  rfl

theorem ForeignKey.addition_eq (key : ForeignKey) : (TableChange.addForeignKey key).addition =
    "CONSTRAINT".toList ++ ' ' :: (key.name ++ ' ' :: ("FOREIGN KEY ".toList ++
      (partsText key.parts ++ ' ' :: ("REFERENCES".toList ++ ' ' ::
        (key.refTable ++ ' ' :: (partsText key.refParts ++ spaced key.actions)))))) := by
  have hclause : (TableChange.addForeignKey key).clause = "ADD ".toList ++
      ("CONSTRAINT ".toList ++ key.name ++ " FOREIGN KEY ".toList ++ key.describe) := rfl
  have hdescribe : key.describe = partsText key.parts ++ " REFERENCES ".toList ++ key.refTable ++
      " ".toList ++ partsText key.refParts ++ spaced key.actions := rfl
  rw [TableChange.addition_of_clause hclause, hdescribe]
  simp

theorem ForeignKey.readsBack_iff_isName {key : ForeignKey} {text refText : Text}
    (henclosed : IsEnclosed text) (hparts : key.parts = listItems text)
    (htable : IsName key.refTable) (hrefEnclosed : IsEnclosed refText)
    (hrefParts : key.refParts = listItems refText) (hactions : trim key.actions = key.actions) :
    key.ReadsBack ↔ IsName key.name := by
  constructor
  · rintro ⟨inner, refInner, hread, -⟩
    have hreads := TableLine.reads_ofText (TableChange.addForeignKey key).addition
    rw [hread] at hreads
    exact (hreads.of_foreignKey.1 _ rfl).1
  · intro hname
    -- behind the columns stands the reference, which ends with the actions
    let reference := "REFERENCES".toList ++ ' ' ::
      (key.refTable ++ ' ' :: (partsText key.refParts ++ spaced key.actions))
    have hreference : trim reference = reference := by
      have htrim := trim_closing ("REFERENCES ".toList ++ key.refTable ++ " (".toList ++
        join "," key.refParts) (by simp) (by rintro c ⟨⟩; decide) hactions
      simpa [reference, partsText_append] using htrim
    obtain ⟨inner, hinner, hitems⟩ := henclosed.partsText (' ' :: reference)
    rw [trim_space, hreference, ← hparts] at hinner
    obtain ⟨refInner, hrefInner, hrefItems⟩ := hrefEnclosed.partsText (spaced key.actions)
    rw [trim_spaced, hactions, ← hrefParts] at hrefInner
    have hread : TableLine.reference? reference =
        some (key.refTable, partsText key.refParts ++ spaced key.actions) := by
      simp only [reference, partsText_append]
      exact TableLine.reference?_name htable _
    have hconstraint : TableLine.constraint? TableLine.foreignKeyParts?
        (TableChange.addForeignKey key).addition =
        some (some key.name, partsText key.parts ++ ' ' :: reference) := by
      rw [key.addition_eq]
      refine TableLine.constraint?_name hname (by rintro c ⟨⟩; decide) ?_
      rw [partsText_append]
      exact TableLine.foreignKeyParts?_opening _
    have htrim : trim (TableChange.addForeignKey key).addition =
        (TableChange.addForeignKey key).addition := by
      have htrim := trim_closing ("CONSTRAINT".toList ++ ' ' :: (key.name ++ ' ' ::
        ("FOREIGN KEY ".toList ++ (partsText key.parts ++ ' ' :: ("REFERENCES".toList ++ ' ' ::
          (key.refTable ++ ' ' :: '(' :: join "," key.refParts)))))) (by simp)
        (by rintro c ⟨⟩; decide) hactions
      simpa [key.addition_eq, partsText_append] using htrim
    have hprimary : TableLine.primaryKey? (TableChange.addForeignKey key).addition = none := by
      rw [key.addition_eq]
      rfl
    refine ⟨inner, refInner, ?_, hitems.trans hparts.symm, hrefItems.trans hrefParts.symm⟩
    simp only [TableLine.ofText, htrim, hprimary, TableLine.foreignKey?, hconstraint, hinner, hread,
      hrefInner, Option.bind_eq_bind, Option.bind_some]
    rfl

theorem CheckConstraint.addition_eq (check : CheckConstraint) :
    (TableChange.addCheck check).addition = "CONSTRAINT".toList ++ ' ' ::
      (check.name ++ ' ' :: ("CHECK ".toList ++
        ('(' :: check.expression ++ ')' :: spaced check.options))) := by
  have hclause : (TableChange.addCheck check).clause = "ADD ".toList ++
      "CONSTRAINT ".toList ++ check.name ++ " ".toList ++ check.describe := rfl
  have hdescribe : check.describe = "CHECK (".toList ++ check.expression ++ ")".toList ++
      spaced check.options := rfl
  rw [hdescribe] at hclause
  rw [TableChange.addition_of_clause (hclause.trans (by simp only [List.append_assoc]; rfl))]
  simp

theorem CheckConstraint.readsBack_iff_isName {check : CheckConstraint}
    (henclosed : IsEnclosed check.expression) (hoptions : trim check.options = check.options) :
    check.ReadsBack ↔ IsName check.name := by
  constructor
  · intro hread
    have hreads := TableLine.reads_ofText (TableChange.addCheck check).addition
    rw [hread] at hreads
    exact (hreads.of_check.1 _ rfl).1
  · intro hname
    have hinner : parenthesised? ('(' :: check.expression ++ ')' :: spaced check.options) =
        some (check.expression, check.options) :=
      parenthesised?_eq_some.mpr ⟨henclosed, spaced check.options, rfl, by
        rw [trim_spaced, hoptions]⟩
    have htrim : trim (TableChange.addCheck check).addition =
        (TableChange.addCheck check).addition := by
      have htrim := trim_closing ("CONSTRAINT".toList ++ ' ' :: (check.name ++ ' ' ::
        ("CHECK ".toList ++ '(' :: check.expression))) (by simp)
        (by rintro c ⟨⟩; decide) hoptions
      simpa [check.addition_eq] using htrim
    have hprimary : TableLine.primaryKey? (TableChange.addCheck check).addition = none := by
      rw [check.addition_eq]
      rfl
    have hforeign : TableLine.foreignKey? (TableChange.addCheck check).addition = none := by
      have hconstraint : TableLine.constraint? TableLine.foreignKeyParts?
          (TableChange.addCheck check).addition = none := by
        rw [check.addition_eq]
        exact TableLine.constraint?_eq_none hname (by rintro c ⟨⟩; decide) rfl
          (TableLine.foreignKeyParts?_check hname _) fun _ => rfl
      simp only [TableLine.foreignKey?, hconstraint, Option.bind_eq_bind, Option.bind_none]
    have hcheck : TableLine.constraint? (fun text => (keyword? "CHECK" text).bind opening?)
        (TableChange.addCheck check).addition =
        some (some check.name, '(' :: check.expression ++ ')' :: spaced check.options) := by
      rw [check.addition_eq]
      exact TableLine.constraint?_name hname (by rintro c ⟨⟩; decide) rfl
    have hread : TableLine.check? (TableChange.addCheck check).addition =
        some (.check (some check.name) check.expression check.options) := by
      rw [TableLine.check?]
      simp only [Option.bind_eq_bind, hcheck, Option.bind_some, hinner]
    simp only [CheckConstraint.ReadsBack, TableLine.ofText, htrim, hprimary, hforeign, hread]
    rfl

/-! ## Keys of a table -/

/-- The clauses of primary keys always read back. The clause of another key reads back if, and only
if, the name of the key goes up to the blank behind it; the name of an index must not be `USING`
besides, and that of a unique index neither `KEY` nor `INDEX`. -/
theorem Table.readsBack_iff {text : Text} {table : Table} (h : parse text = .ok table) :
    (∀ index ∈ table.indexes, index.ReadsBack ↔
      '(' ∉ index.name ∧ wholeKeyword? "USING" index.name = none ∧
        (index.kind = .unique → anyKeyword? ["KEY", "INDEX"] index.name ≠ some [])) ∧
    (∀ key ∈ table.primaryKey, key.ReadsBack) ∧
    (∀ key ∈ table.foreignKeys, key.ReadsBack ↔ '(' ∉ key.name) ∧
    ∀ check ∈ table.checks, check.ReadsBack ↔ '(' ∉ check.name := by
  have hstands := standsOn_of_parse h
  refine ⟨fun index hindex => ?_, fun key hkey => ?_, fun key hkey => ?_, fun check hcheck => ?_⟩
  · obtain ⟨_, partsText, hline, hparts, -⟩ := hstands.index index hindex
    obtain ⟨line, -, hreads⟩ := exists_reads hline
    obtain ⟨-, henclosed, hoptions⟩ := hreads.of_index
    rw [Index.readsBack_iff_isNamedApart henclosed hparts hoptions,
      ← (isUnbroken_indexName h hindex).isName_iff]
    exact ⟨fun hnamed => ⟨hnamed.isName, hnamed.using_eq_none, hnamed.key_ne⟩,
      fun ⟨hname, husing, hkey⟩ => ⟨hname, husing, hkey⟩⟩
  · obtain ⟨partsText, hline, hparts⟩ := hstands.primaryKey key hkey
    obtain ⟨line, -, hreads⟩ := exists_reads hline
    obtain ⟨henclosed, hoptions⟩ := hreads.of_primaryKey
    exact PrimaryKey.readsBack henclosed hparts hoptions
  · obtain ⟨_, partsText, refPartsText, hline, hparts, hrefParts, -⟩ :=
      hstands.foreignKey key hkey
    obtain ⟨line, -, hreads⟩ := exists_reads hline
    obtain ⟨-, henclosed, htable, hrefEnclosed, hactions⟩ := hreads.of_foreignKey
    rw [ForeignKey.readsBack_iff_isName henclosed hparts htable hrefEnclosed hrefParts hactions,
      (isUnbroken_foreignKeyName h hkey).isName_iff]
  · obtain ⟨_, hline, -⟩ := hstands.check check hcheck
    obtain ⟨line, -, hreads⟩ := exists_reads hline
    obtain ⟨-, henclosed, hoptions⟩ := hreads.of_check
    rw [CheckConstraint.readsBack_iff_isName henclosed hoptions,
      (isUnbroken_checkName h hcheck).isName_iff]

/-- A table with an index of each name that is part of the keywords somewhere. -/
def wordNamed : Table where
  name := "t".toList
  columns := [⟨"a".toList, "varchar(9)".toList, 0⟩, ⟨"using".toList, "int".toList, 1⟩]
  indexes := [⟨"key".toList, .unique, ["a".toList], []⟩,
    ⟨"index".toList, .plain, ["a(3) DESC".toList, "(lower(a))".toList], "USING BTREE".toList⟩,
    ⟨"using".toList, .plain, ["using".toList], []⟩]
  primaryKey := some ⟨["using".toList], "USING HASH".toList⟩
  foreignKeys := [⟨"t_ibfk_1".toList, ["a".toList], "u".toList, ["b".toList],
    "ON DELETE CASCADE".toList⟩]
  checks := [⟨"t_chk_1".toList, "a <> ')'".toList, "NOT ENFORCED".toList⟩]
  options := "ENGINE=InnoDB".toList
  definition := unlines ["CREATE TABLE t (", "  a varchar(9),", "  using int,",
    "  UNIQUE KEY key (a),", "  KEY index (a(3) DESC, (lower(a))) USING BTREE,", "  KEY (using),",
    "  PRIMARY KEY USING HASH (using),",
    "  FOREIGN KEY (a) REFERENCES u (b) ON DELETE CASCADE,", "  CHECK (a <> ')') NOT ENFORCED",
    ") ENGINE=InnoDB;"]

theorem Table.readsBack_iff_wordNamed : parse wordNamed.definition = .ok wordNamed ∧
    (∀ index ∈ wordNamed.indexes, index.ReadsBack ↔ index.name = "index".toList) ∧
    (∀ key ∈ wordNamed.primaryKey, key.ReadsBack) ∧
    (∀ key ∈ wordNamed.foreignKeys, key.ReadsBack) ∧
    ∀ check ∈ wordNamed.checks, check.ReadsBack := by
  have hparse : parse wordNamed.definition = .ok wordNamed := by decide +kernel
  obtain ⟨hindexes, hprimary, hforeign, hchecks⟩ := readsBack_iff hparse
  refine ⟨hparse, fun index hindex => ?_, hprimary, fun key hkey => ?_, fun check hcheck => ?_⟩
  · rw [hindexes index hindex]
    have hnames : ∀ index ∈ wordNamed.indexes, ('(' ∉ index.name ∧
        wholeKeyword? "USING" index.name = none ∧
          (index.kind = .unique → anyKeyword? ["KEY", "INDEX"] index.name ≠ some [])) ↔
        index.name = "index".toList := by
      decide +kernel
    exact hnames index hindex
  · have hopen : ∀ key ∈ wordNamed.foreignKeys, '(' ∉ key.name := by decide +kernel
    exact (hforeign key hkey).mpr (hopen key hkey)
  · have hopen : ∀ check ∈ wordNamed.checks, '(' ∉ check.name := by decide +kernel
    exact (hchecks check hcheck).mpr (hopen check hcheck)

end SchemaMigration
