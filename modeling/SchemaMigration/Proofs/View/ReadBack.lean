import SchemaMigration.Proofs.View.CheckOption

/-!
# Reading a view back

The statements of a view that was read are read as the same view: only the definer is the user who
runs them, and the definition is the statement. What makes this so is that each part of a view that
was read is of the shape that the reader finds again behind the words that the statement puts in
front of it.

## Main Definitions

* `View.WellFormed` - the parts of a view as a definition gives them
* `View.wellFormed_of_ofText?` - a view that was read is well-formed
* `View.ofText?_createStatement` - a well-formed view is read back
* `View.parse_statements` - so is a view that was read
-/

namespace SchemaMigration.View

open Text

/-- A list of columns, or nothing. -/
def IsColumnList (columns : Text) : Prop :=
  columns = [] ∨ ∃ inner, ')' ∉ inner ∧ columns = '(' :: inner ++ [')']

/-- The parts of a view as a definition gives them. -/
structure WellFormed (view : View) : Prop where
  name : IsName view.name
  columns : IsColumnList view.columns
  select : IsQuery view.select view.checkOption
  algorithm : IsWord view.algorithm
  upper_algorithm : upper view.algorithm = view.algorithm
  security : IsSpelling "DEFINER" view.security ∨ IsSpelling "INVOKER" view.security
  upper_security : upper view.security = view.security
  upper_squash_checkOption : upper (squash view.checkOption) = view.checkOption

/-! ## Views that were read -/

theorem isWord_of_setting? {keyword text word rest : Text}
    (h : setting? keyword text = some (word, rest)) : IsWord word := by
  simp only [setting?, assignment?, Option.bind_eq_bind, Option.bind_eq_some_iff] at h
  obtain ⟨_, -, _, -, _, -, hword⟩ := h
  exact (word?_eq_some.mp hword).1

theorem isSpelling_of_security? {text security rest : Text}
    (h : security? text = some (security, rest)) :
    IsSpelling "DEFINER" security ∨ IsSpelling "INVOKER" security := by
  simp only [security?, Option.bind_eq_bind, Option.bind_eq_some_iff] at h
  obtain ⟨_, -, _, -, value, -, behind, hany, heq⟩ := h
  obtain ⟨rfl, rfl⟩ := Prod.mk.inj (Option.some.inj heq)
  obtain ⟨keyword, hkeyword, hread⟩ := List.exists_of_findSome?_eq_some hany
  obtain ⟨word, hword, rfl⟩ := keyword?_eq_some.mp hread
  rw [before_append]
  simp only [List.mem_cons, List.not_mem_nil, or_false] at hkeyword
  rcases hkeyword with rfl | rfl
  · exact .inl hword
  · exact .inr hword

theorem head?_of_query? {text query : Text} (h : query? text = some query) :
    ∀ c ∈ query.head?, isBlank c = false := by
  obtain ⟨_, -, hblanks⟩ := Option.bind_eq_some_iff.mp h
  obtain ⟨_, -, -, hhead⟩ := blanks?_eq_some.mp hblanks
  exact hhead

theorem IsColumnList.trim_eq {columns : Text} (h : IsColumnList columns) :
    trim columns = columns := by
  rcases h with rfl | ⟨inner, -, rfl⟩
  · rfl
  · refine trim_eq_self (fun c hc => by cases hc; rfl) fun c hc => ?_
    rw [List.getLast?_concat] at hc
    cases hc
    rfl

/-- What stands between the keyword in front of a view and its ending. -/
theorem of_nameColumnsAndQuery? {text name columns query : Text}
    (h : nameColumnsAndQuery? text = some (name, columns, query)) :
    IsName name ∧ IsColumnList columns ∧ ∀ c ∈ query.head?, isBlank c = false := by
  simp only [nameColumnsAndQuery?, Option.bind_eq_bind, Option.bind_eq_some_iff] at h
  obtain ⟨⟨whole, rest⟩, hname, h⟩ := h
  have hwhole := (name?_eq_some.mp hname).1
  rcases eq_some_of_orElse h with h | h
  · obtain ⟨⟨found, rest⟩, hfound, heq⟩ := Option.bind_eq_some_iff.mp h
    cases heq
    refine ⟨hwhole, ?_⟩
    rcases eq_some_of_orElse hfound with hlist | hbare
    · obtain ⟨⟨list, behind⟩, hlist, hbehind⟩ := Option.bind_eq_some_iff.mp hlist
      obtain ⟨inside, hquery, heq⟩ := Option.bind_eq_some_iff.mp hbehind
      cases heq
      obtain ⟨inner, hinner, rfl, -⟩ := upToClosing?_eq_some.mp hlist
      exact ⟨.inr ⟨inner, hinner, rfl⟩, head?_of_query? hquery⟩
    · obtain ⟨inside, hquery, heq⟩ := Option.map_eq_some_iff.mp hbare
      cases heq
      exact ⟨.inl rfl, head?_of_query? hquery⟩
  · -- the name without the `AS` at its end
    simp only at h
    split at h
    · cases h
    · rename_i hne
      obtain ⟨inside, hquery, heq⟩ := Option.bind_eq_some_iff.mp h
      cases heq
      refine ⟨⟨by simpa using hne, fun c hc => ?_⟩, .inl rfl, head?_of_query? hquery⟩
      exact hwhole.inside c (List.mem_of_mem_take hc)

theorem of_orElse {p : Text → Prop} {fallback text : Text} {found : Option (Text × Text)}
    (hfallback : p fallback) (hfound : ∀ value rest, found = some (value, rest) → p value) :
    p (orElse fallback text found).1 := by
  cases found with
  | none => exact hfallback
  | some found => exact hfound found.1 found.2 rfl

theorem upper_squash_upper_squash (text : Text) :
    upper (squash (upper (squash text))) = upper (squash text) := by
  rw [squash_upper, squash_squash, upper_upper]

/-- A view that was read is well-formed. -/
theorem wellFormed_of_ofText? {text : Text} {view : View} (h : ofText? text = some view) :
    view.WellFormed := by
  simp only [ofText?, Option.bind_eq_bind, Option.bind_eq_some_iff] at h
  obtain ⟨rest, -, behind, -, start, -, ⟨name, columns, query⟩, hname, ⟨select, option⟩, hselect,
    hview⟩ := h
  obtain rfl := Option.some.inj hview
  obtain ⟨hname, hcolumns, hhead⟩ := of_nameColumnsAndQuery? hname
  have hquery := isQuery_of_splitAtSuffix? hhead hselect
  refine ⟨hname, hcolumns.trim_eq.symm ▸ hcolumns, ?_, ?_, upper_upper _, ?_, upper_upper _,
    upper_squash_upper_squash _⟩
  · exact hquery.trim_eq.symm ▸ hquery.upper_squash
  · refine IsWord.upper (of_orElse ⟨by simp, by decide⟩ fun _ _ => isWord_of_setting?)
  · have hkeyword : IsKeyword "DEFINER" ∧ IsKeyword "INVOKER" := by decide
    rcases of_orElse (.inl (isSpelling_self _)) fun _ _ => isSpelling_of_security? with h | h
    · exact .inl (h.upper hkeyword.1)
    · exact .inr (h.upper hkeyword.2)

/-! ## Statements that are read -/

/-- A setting is read behind its keyword. -/
theorem setting?_word {keyword word rest : Text} (hkeyword : IsKeyword keyword)
    (hword : IsWord word) (hrest : ∀ c ∈ rest.head?, isBlank c = true) :
    setting? keyword (' ' :: (keyword ++ '=' :: (word ++ rest))) = some (word, rest) := by
  have hhead : ∀ c ∈ (keyword ++ '=' :: (word ++ rest)).head?, isBlank c = false :=
    ((isSpelling_self keyword).isWord hkeyword).head? _
  rw [setting?, blanks?_space hhead]
  exact assignment?_word hword hrest

theorem security?_spelling {security rest : Text}
    (h : IsSpelling "DEFINER" security ∨ IsSpelling "INVOKER" security) :
    security? (" SQL SECURITY ".toList ++ (security ++ rest)) = some (security, rest) := by
  have hhead : ∀ c ∈ (security ++ rest).head?, isBlank c = false := by
    have hkeyword : IsKeyword "DEFINER" ∧ IsKeyword "INVOKER" := by decide
    rcases h with h | h
    · exact (h.isWord hkeyword.1).head? rest
    · exact (h.isWord hkeyword.2).head? rest
  have hkeywords : (blanks? (" SQL SECURITY ".toList ++ (security ++ rest))).bind
      (keywords? ["SQL", "SECURITY"]) = some (' ' :: (security ++ rest)) := rfl
  have hany : anyKeyword? ["DEFINER", "INVOKER"] (security ++ rest) = some rest := by
    rw [anyKeyword?_eq_some (by decide)]
    rcases h with h | h
    · exact ⟨_, by simp, keyword?_eq_some.mpr ⟨security, h, rfl⟩⟩
    · exact ⟨_, by simp, keyword?_eq_some.mpr ⟨security, h, rfl⟩⟩
  have hread : security? (" SQL SECURITY ".toList ++ (security ++ rest)) =
      (((blanks? (" SQL SECURITY ".toList ++ (security ++ rest))).bind
        (keywords? ["SQL", "SECURITY"])).bind blanks?).bind fun value =>
          (anyKeyword? ["DEFINER", "INVOKER"] value).map fun rest => (before value rest, rest) := by
    simp only [security?, Option.bind_eq_bind, Option.pure_def, Option.bind_assoc,
      Option.map_eq_bind, Function.comp_def]
  rw [hread, hkeywords, Option.bind_some, blanks?_space hhead, Option.bind_some, hany,
    Option.map_some, before_append]

/-- The name, the columns and the query of a view are read in front of and behind `AS`. -/
theorem nameColumnsAndQuery?_spaced {name columns query : Text} (hname : IsName name)
    (hcolumns : IsColumnList columns) (hquery : ∀ c ∈ query.head?, isBlank c = false) :
    nameColumnsAndQuery? (name ++ (spaced columns ++ (" AS ".toList ++ query))) =
      some (name, columns, query) := by
  have has : query? ("AS ".toList ++ query) = some query := blanks?_space hquery
  have hfound : columnsAndQuery? (spaced columns ++ (" AS ".toList ++ query)) =
      some (columns, query) := by
    rcases hcolumns with rfl | ⟨inner, hinner, rfl⟩
    · have hbare : columnsAndQuery? (" AS ".toList ++ query) =
          (query? ("AS ".toList ++ query)).map fun query => ([], query) := rfl
      exact hbare.trans (by rw [has, Option.map_some])
    · have hlist : upToClosing? ('(' :: inner ++ [')'] ++ (" AS ".toList ++ query)) =
          some ('(' :: inner ++ [')'], " AS ".toList ++ query) :=
        upToClosing?_eq_some.mpr ⟨inner, hinner, rfl, rfl⟩
      have htext : trimLeft (spaced ('(' :: inner ++ [')']) ++ (" AS ".toList ++ query)) =
          '(' :: inner ++ [')'] ++ (" AS ".toList ++ query) := rfl
      have hquery : query? (trimLeft (" AS ".toList ++ query)) = some query := has
      simp only [columnsAndQuery?, htext, hlist, hquery, Option.bind_eq_bind, Option.bind_some]
      rfl
  have hblank : ∀ c ∈ (spaced columns ++ (" AS ".toList ++ query)).head?,
      isBlank c = true ∨ c = '(' := by
    have hspace : (spaced columns ++ (" AS ".toList ++ query)).head? = some ' ' := by
      cases columns <;> rfl
    rw [hspace]
    rintro c ⟨⟩
    exact .inl rfl
  have hread : name? (name ++ (spaced columns ++ (" AS ".toList ++ query))) =
      some (name, spaced columns ++ (" AS ".toList ++ query)) :=
    name?_eq_some.mpr ⟨hname, rfl, hblank⟩
  simp only [nameColumnsAndQuery?, hread, hfound, Option.bind_eq_bind, Option.bind_some]
  rfl

/-- The parts of the statement that creates a view, in the order in which they are read. -/
theorem createStatement_eq {view : View} (h : view.WellFormed) : view.createStatement =
    "CREATE".toList ++ ' ' :: ("ALGORITHM".toList ++ '=' :: (view.algorithm ++
      ' ' :: ("DEFINER".toList ++ '=' :: ("CURRENT_USER".toList ++ (" SQL SECURITY ".toList ++
        (view.security ++ (" VIEW ".toList ++ (view.name ++ (spaced view.columns ++
          (" AS ".toList ++ (view.select ++ (checkClause view.checkOption ++ [';'])))))))))))) := by
  have hsquash : squash view.checkOption = view.checkOption := by
    rw [← h.upper_squash_checkOption, ← squash_upper, squash_squash]
  have hbody : view.createStatement = "CREATE ".toList ++ ("ALGORITHM=".toList ++ view.algorithm ++
      " DEFINER=CURRENT_USER SQL SECURITY ".toList ++ view.security ++ " VIEW ".toList ++
        view.name ++ spaced view.columns ++ " AS ".toList ++ view.select ++
          checkClause (squash view.checkOption) ++ ";".toList) := by
    have hcheck : checkClause (squash view.checkOption) =
        if view.checkOption.isEmpty then [] else " WITH ".toList ++ squash view.checkOption := by
      rw [hsquash, checkClause]
    rw [hcheck]
    rfl
  have hcreate : "CREATE ".toList = "CREATE".toList ++ [' '] := by decide
  have halgorithm : "ALGORITHM=".toList = "ALGORITHM".toList ++ ['='] := by decide
  have hdefiner : " DEFINER=CURRENT_USER SQL SECURITY ".toList = [' '] ++
      ("DEFINER".toList ++ (['='] ++ ("CURRENT_USER".toList ++ " SQL SECURITY ".toList))) := by
    decide
  have hend : ";".toList = [';'] := by decide
  simp only [hbody, hsquash, hcreate, halgorithm, hdefiner, hend, List.append_assoc,
    List.cons_append, List.nil_append]

theorem trim_createStatement (view : View) : trim view.createStatement = view.createStatement := by
  obtain ⟨front, hfront⟩ : ∃ front, view.createStatement = 'C' :: front ++ [';'] :=
    ⟨_, (List.append_assoc ..).symm⟩
  rw [hfront]
  refine trim_eq_self (fun c hc => by cases hc; rfl) fun c hc => ?_
  rw [List.getLast?_concat] at hc
  cases hc
  rfl

/-- No blank is between the keyword `AS` with its space and what follows. -/
theorem WellFormed.head?_query {view : View} (h : view.WellFormed) :
    ∀ c ∈ (view.select ++ (checkClause view.checkOption ++ [';'])).head?, isBlank c = false := by
  by_cases hselect : view.select = []
  · rw [hselect, h.select.option_eq_nil hselect]
    rintro c ⟨⟩
    rfl
  · rw [List.head?_append_of_ne_nil _ hselect, ← h.select.trim_eq]
    exact head?_trim

/-- The view that is read from its own statement. -/
theorem ofText?_createStatement {view : View} (h : view.WellFormed) :
    ofText? view.createStatement =
      some { view with definer := "CURRENT_USER", definition := view.createStatement } := by
  have htrim := trim_createStatement view
  have hquery := h.head?_query
  have hselect := h.select.splitAtSuffix?_checkClause
  have hname := nameColumnsAndQuery?_spaced h.name h.columns hquery
  generalize htext : view.createStatement = text at htrim ⊢
  rw [createStatement_eq h] at htext
  generalize view.select ++ (checkClause view.checkOption ++ [';']) = query at *
  have hview : blanks? (' ' :: (view.name ++ (spaced view.columns ++ (" AS ".toList ++ query)))) =
      some (view.name ++ (spaced view.columns ++ (" AS ".toList ++ query))) :=
    blanks?_space fun c hc => (h.name.head? _ c hc).1
  generalize view.name ++ (spaced view.columns ++ (" AS ".toList ++ query)) = rest at *
  have hafter : afterKeyword? "VIEW" (" VIEW ".toList ++ rest) = some (' ' :: rest) := rfl
  have hblank : ∀ c ∈ (" VIEW ".toList ++ rest).head?, isBlank c = true :=
    fun c hc => by cases hc; rfl
  have hsecurity : security?
      (" SQL SECURITY ".toList ++ (view.security ++ (" VIEW ".toList ++ rest))) =
        some (view.security, " VIEW ".toList ++ rest) := security?_spelling h.security
  generalize " VIEW ".toList ++ rest = behind at *
  have hdefiner : setting? "DEFINER" (' ' :: ("DEFINER".toList ++ '=' :: ("CURRENT_USER".toList ++
        (" SQL SECURITY ".toList ++ (view.security ++ behind))))) =
      some ("CURRENT_USER".toList, " SQL SECURITY ".toList ++ (view.security ++ behind)) :=
    setting?_word (by decide) ⟨by simp, by decide⟩ (fun c hc => by cases hc; rfl)
  generalize " SQL SECURITY ".toList ++ (view.security ++ behind) = behind at *
  have halgorithm : setting? "ALGORITHM" (' ' :: ("ALGORITHM".toList ++ '=' :: (view.algorithm ++
      ' ' :: ("DEFINER".toList ++ '=' :: ("CURRENT_USER".toList ++ behind))))) =
        some (view.algorithm,
          ' ' :: ("DEFINER".toList ++ '=' :: ("CURRENT_USER".toList ++ behind))) :=
    setting?_word (by decide) h.algorithm (fun c hc => by cases hc; rfl)
  have hor : (blanks? (' ' :: ("ALGORITHM".toList ++ '=' :: (view.algorithm ++
      ' ' :: ("DEFINER".toList ++ '=' :: ("CURRENT_USER".toList ++ behind)))))).bind
        (keywords? ["OR", "REPLACE"]) = none := rfl
  generalize ' ' :: ("ALGORITHM".toList ++ '=' :: (view.algorithm ++
    ' ' :: ("DEFINER".toList ++ '=' :: ("CURRENT_USER".toList ++ behind)))) = settings at *
  have hcreate : keyword? "CREATE" (trimLeft text) = some settings := htext ▸ rfl
  simp only [ofText?, hcreate, hor, Option.getD_none, halgorithm, hdefiner, orElse, hsecurity,
    hafter, hview, hname, hselect, htrim, h.columns.trim_eq, h.select.trim_eq, h.upper_algorithm,
    h.upper_security, h.upper_squash_checkOption, Option.bind_eq_bind, Option.bind_some]
  rfl

/-- The statements of a view that was read are read as the same view. Only the definer is the user
who runs them, and the definition is the statement. -/
theorem parse_statements {text : Text} {view : View} (h : View.parse text = .ok view) :
    ∃ again, View.parse view.createStatement = .ok again ∧
      again = { view with definer := "CURRENT_USER", definition := view.createStatement } ∧
      again.signature = view.signature ∧ again.createStatement = view.createStatement ∧
      ∃ rest, view.alterStatement = "ALTER".toList ++ rest ∧
        View.parse ("CREATE".toList ++ rest) = .ok again := by
  have hview : ofText? text = some view := by
    rw [View.parse] at h
    split at h
    · rename_i found hfound
      rw [hfound, Except.ok.inj h]
    · cases h
  have hread := ofText?_createStatement (wellFormed_of_ofText? hview)
  have hparse : View.parse view.createStatement =
      .ok { view with definer := "CURRENT_USER", definition := view.createStatement } := by
    rw [View.parse, hread]
  exact ⟨_, hparse, rfl, rfl, rfl, ' ' :: view.body, rfl, hparse⟩

/-- A view whose query ends with what would be a check option without the semicolon behind it. -/
def doublyChecked : View where
  name := "v".toList
  columns := "(a)".toList
  select := "TABLE t with check option;".toList
  algorithm := "MERGE".toList
  definer := "CURRENT_USER".toList
  security := "INVOKER".toList
  checkOption := "LOCAL CHECK OPTION".toList
  definition := unlines ["create algorithm = Merge sql  security invoker".toList,
    "view v(a)AS TABLE t with check option; With local".toList, "check option ;".toList]

theorem parse_statements_doublyChecked :
    View.parse doublyChecked.definition = .ok doublyChecked ∧
      ∃ again, View.parse doublyChecked.createStatement = .ok again ∧
        again.signature = doublyChecked.signature := by
  have hread : View.parse doublyChecked.definition = .ok doublyChecked := by decide +kernel
  obtain ⟨again, hagain, -, hsignature, -⟩ := parse_statements hread
  exact ⟨hread, again, hagain, hsignature⟩

end SchemaMigration.View
