import SchemaMigration.Proofs.Dump.Delimiter
import SchemaMigration.Proofs.Routine.Spacing
import SchemaMigration.Proofs.Text.Ending

/-!
# Reading a routine back

What stands behind the keyword of a routine is read again behind the head that its statements put
in front of it. In the statement that creates a routine the lines have lost the blanks at their
ends, which changes the spacing of its texts and nothing that routines are compared by.

## Main Definitions

* `Routine.Head.WellFormed` - the kind and the source of a routine as a definition gives them
* `Routine.head?_eq_some` - such a head is read back in front of an ending
* `Routine.statements_createStatement` - the statement that the delimiter directives enclose
* `Routine.parse_readBack` - a routine is read back from its source and from its statement
-/

namespace SchemaMigration

open Text

namespace RoutineKind

theorem word_ofSpelling (spelling : Text) : (ofSpelling spelling).word = upper spelling := by
  simp only [ofSpelling]
  split_ifs with hprocedure hfunction htrigger
  · exact hprocedure.symm
  · exact hfunction.symm
  · exact htrigger.symm
  · rfl

theorem ofSpelling_upper (spelling : Text) :
    ofSpelling (upper spelling) = ofSpelling spelling := by
  simp only [ofSpelling, upper_upper]

end RoutineKind

namespace Routine

/-! ## Endings -/

/-- An ending has blanks and at most two semicolons. -/
theorem of_isEnd {text : Text} (h : isEnd text = true) :
    (∀ c ∈ text, isBlank c = true ∨ c = ';') ∧ text.count ';' ≤ 2 := by
  have hmarks {marks pad : Text} (hmarks : ∀ c ∈ marks, c = ';') (hlength : marks.length ≤ 2)
      (htext : trimLeft text = marks ++ pad) (hpad : isBlankText pad = true) :
      (∀ c ∈ text, isBlank c = true ∨ c = ';') ∧ text.count ';' ≤ 2 := by
    have hpad := List.all_eq_true.mp hpad
    have hgap : ∀ c ∈ text.takeWhile isBlank, isBlank c = true :=
      fun c hc => List.mem_takeWhile_imp hc
    have hzero {pad : Text} (hpad : ∀ c ∈ pad, isBlank c = true) : pad.count ';' = 0 :=
      List.count_eq_zero.mpr fun hmem => absurd (hpad _ hmem) (by decide)
    rw [← List.takeWhile_append_dropWhile (p := isBlank) (l := text), ← trimLeft, htext]
    refine ⟨fun c hc => ?_, ?_⟩
    · simp only [List.mem_append] at hc
      rcases hc with hc | hc | hc
      · exact .inl (hgap c hc)
      · exact .inr (hmarks c hc)
      · exact .inl (hpad c hc)
    · rw [List.count_append, List.count_append, hzero hgap, hzero hpad]
      have hcount := List.count_le_length (a := ';') (l := marks)
      omega
  rw [isEnd] at h
  cases htwo : after? ";;" (trimLeft text) with
  | some pad =>
      rw [htwo] at h
      exact hmarks (by decide) (by decide) (eq_append_of_after? htwo) h
  | none =>
      cases hone : after? ";" (trimLeft text) with
      | some pad =>
          rw [htwo, hone] at h
          exact hmarks (by decide) (by decide) (eq_append_of_after? hone) h
      | none =>
          rw [htwo, hone] at h
          exact hmarks (by simp) (by simp) (List.nil_append _).symm h

/-- No ending begins inside of a text that ends with something else than a blank and a semicolon. -/
theorem isEnd_eq_false {source inside : Text} (hne : inside ≠ []) (hinside : inside <:+ source)
    (hlast : ∀ c ∈ source.getLast?, isBlank c = false ∧ c ≠ ';') : isEnd inside = false := by
  rw [Bool.eq_false_iff]
  intro hend
  obtain ⟨front, rfl⟩ := hinside
  have hmem := List.getLast_mem_getLast? hne
  rw [List.getLast?_append_of_ne_nil _ hne] at hlast
  obtain ⟨hblank, hsemicolon⟩ := hlast _ hmem
  rcases (of_isEnd hend).1 _ (List.mem_of_getLast? hmem) with h | h
  · rw [h] at hblank
    cases hblank
  · exact hsemicolon h

/-- No ending begins inside of a text without blanks at its end that two semicolons follow. -/
theorem isEnd_append_eq_false {source inside : Text} (hne : inside ≠ [])
    (hinside : inside <:+ source) (hlast : ∀ c ∈ source.getLast?, isBlank c = false) :
    isEnd (inside ++ ";;".toList) = false := by
  rw [Bool.eq_false_iff]
  intro hend
  obtain ⟨front, rfl⟩ := hinside
  have hmem := List.getLast_mem_getLast? hne
  rw [List.getLast?_append_of_ne_nil _ hne] at hlast
  obtain ⟨hchars, hcount⟩ := of_isEnd hend
  rcases hchars _ (List.mem_append_left _ (List.mem_of_getLast? hmem)) with h | h
  · rw [hlast _ hmem] at h
    cases h
  · -- a third semicolon
    have hone : 0 < inside.count ';' := List.count_pos_iff.mpr (h ▸ List.getLast_mem hne)
    have htwo : ";;".toList.count ';' = 2 := by decide
    rw [List.count_append, htwo] at hcount
    omega

/-! ## Heads -/

/-- The keywords of routines. -/
def kindKeywords : List Text := ["TRIGGER", "PROCEDURE", "FUNCTION"]

/-- The kind and the source of a routine as a definition gives them. -/
structure Head.WellFormed (head : Head) : Prop where
  word : ∃ keyword ∈ kindKeywords, IsSpelling keyword head.kind.word
  ofSpelling_word : RoutineKind.ofSpelling head.kind.word = head.kind
  trim_rest : trim head.rest = head.rest

theorem isKeyword_of_kindKeywords : ∀ keyword ∈ kindKeywords, IsKeyword keyword := by decide

theorem Head.WellFormed.isWord {head : Head} (h : head.WellFormed) : IsWord head.kind.word := by
  obtain ⟨keyword, hkeyword, hword⟩ := h.word
  exact hword.isWord (isKeyword_of_kindKeywords keyword hkeyword)

theorem Head.WellFormed.getLast? {head : Head} (h : head.WellFormed) :
    ∀ c ∈ head.rest.getLast?, isBlank c = false := by
  rw [← h.trim_rest]
  exact getLast?_trim

/-- A head that was read is well-formed. -/
theorem wellFormed_of_head? {text : Text} {head : Head} (h : head? text = some head) :
    head.WellFormed := by
  simp only [head?, Option.bind_eq_bind, Option.bind_eq_some_iff] at h
  obtain ⟨start, -, kind, -, rest, hany, behind, -, ⟨source, found⟩, -, heq⟩ := h
  obtain rfl := Option.some.inj heq
  obtain ⟨keyword, hkeyword, hread⟩ := List.exists_of_findSome?_eq_some hany
  obtain ⟨word, hword, rfl⟩ := keyword?_eq_some.mp hread
  rw [before_append]
  refine ⟨⟨keyword, hkeyword, ?_⟩, ?_, trim_trim _⟩
  · rw [RoutineKind.word_ofSpelling]
    exact hword.upper (isKeyword_of_kindKeywords keyword hkeyword)
  · rw [RoutineKind.word_ofSpelling, RoutineKind.ofSpelling_upper]

/-- A well-formed head is read back in front of an ending, for the current user. -/
theorem head?_eq_some {head : Head} (h : head.WellFormed) {tail : Text} (htail : isEnd tail = true)
    (hhead : ∀ c ∈ tail.head?, isBlank c = false)
    (hinside : ∀ inside, inside ≠ [] → inside <:+ head.rest → isEnd (inside ++ tail) = false) :
    head? ("CREATE DEFINER=CURRENT_USER ".toList ++
      (head.kind.word ++ ' ' :: (head.rest ++ tail))) =
        some { head with definer := "CURRENT_USER" } := by
  obtain ⟨keyword, hkeyword, hword⟩ := h.word
  have hblanks : blanks? (' ' :: (head.rest ++ tail)) = some (head.rest ++ tail) := by
    refine blanks?_space ?_
    by_cases hrest : head.rest = []
    · rwa [hrest]
    · rw [List.head?_append_of_ne_nil _ hrest, ← h.trim_rest]
      exact head?_trim
  have hsplit : splitAtSuffix? (fun text => if isEnd text then some () else none)
      (head.rest ++ tail) = some (head.rest, ()) := by
    refine splitAtSuffix?_eq_some.mpr ⟨tail, rfl, if_pos htail, fun inside hne hsuffix => ?_⟩
    simp [hinside inside hne hsuffix]
  generalize head.rest ++ tail = rest at *
  have hany : anyKeyword? kindKeywords (head.kind.word ++ ' ' :: rest) = some (' ' :: rest) :=
    (anyKeyword?_eq_some (by decide)).mpr
      ⟨keyword, hkeyword, keyword?_eq_some.mpr ⟨_, hword, rfl⟩⟩
  have hkind : blanks? (' ' :: (head.kind.word ++ ' ' :: rest)) =
      some (head.kind.word ++ ' ' :: rest) := blanks?_space (h.isWord.head? _)
  have hbefore := before_append head.kind.word (' ' :: rest)
  generalize head.kind.word ++ ' ' :: rest = kind at *
  have hdefiner : assignment? "DEFINER" ("DEFINER".toList ++ '=' :: ("CURRENT_USER".toList ++
      ' ' :: kind)) = some ("CURRENT_USER".toList, ' ' :: kind) :=
    assignment?_word ⟨by simp, by decide⟩ fun c hc => by cases hc; rfl
  have hcreate : keyword? "CREATE" (trimLeft ("CREATE DEFINER=CURRENT_USER ".toList ++ kind)) =
      some (' ' :: ("DEFINER".toList ++ '=' :: ("CURRENT_USER".toList ++ ' ' :: kind))) := rfl
  have hstart : blanks?
      (' ' :: ("DEFINER".toList ++ '=' :: ("CURRENT_USER".toList ++ ' ' :: kind))) =
        some ("DEFINER".toList ++ '=' :: ("CURRENT_USER".toList ++ ' ' :: kind)) := rfl
  simp only [head?, hcreate, hstart, hdefiner, hkind, Option.bind_eq_bind, Option.bind_some,
    Option.getD_some]
  rw [← kindKeywords, hany]
  simp only [Option.bind_some, hblanks, hsplit, hbefore, h.ofSpelling_word, h.trim_rest]
  rfl

/-! ## Routines behind a head -/

theorem of_ofHead? {head : Head} {routine : Routine} (h : ofHead? head = some routine) :
    routine.kind = head.kind ∧ routine.source = head.rest ∧ head.rest ≠ [] := by
  have hsource : routine.kind = head.kind ∧ routine.source = head.rest := by
    rw [ofHead?] at h
    split at h
    · simp only [trigger?, Option.bind_eq_bind, Option.bind_eq_some_iff] at h
      obtain ⟨_, -, _, -, _, -, _, -, _, -, _, -, _, -, _, -, _, -, _, -, _, -, heq⟩ := h
      cases heq
      exact ⟨rfl, rfl⟩
    · obtain ⟨⟨name, parameters, rest⟩, -, h⟩ := Option.bind_eq_some_iff.mp h
      simp only at h
      split at h
      · cases h
      · cases h
        exact ⟨rfl, rfl⟩
  refine ⟨hsource.1, hsource.2, fun hnil => ?_⟩
  have hnone : ofHead? head = none := by
    simp [ofHead?, trigger?, parameters?, hnil, word?, name?]
  rw [hnone] at h
  cases h

/-- Who defined a routine does not matter for the rest of it. -/
theorem ofHead?_definer (head : Head) (definer : Text) :
    ofHead? { head with definer } = (ofHead? head).map ({ · with definer }) := by
  have htrigger : trigger? { head with definer } = (trigger? head).map ({ · with definer }) := by
    simp only [trigger?, Option.bind_eq_bind, Option.pure_def, Option.map_bind, Function.comp_def,
      Option.map_some]
  rw [ofHead?, ofHead?, htrigger]
  split
  · rfl
  · rw [Option.map_bind]
    refine Option.bind_congr fun found _ => ?_
    simp only [Function.comp_apply]
    split <;> rfl

/-- A routine is the same, but for its texts, behind a text with the same spacing. -/
theorem ofHead?_of_singleSpaced {head : Head} {routine : Routine} {rest : Text}
    (h : ofHead? head = some routine)
    (hrest : Text.singleSpaced rest = Text.singleSpaced head.rest) :
    ∃ again, ofHead? { head with rest } = some again ∧
      again.singleSpaced = routine.singleSpaced := by
  have hsame : Head.singleSpaced { head with rest } = head.singleSpaced := by
    rw [Head.singleSpaced, Head.singleSpaced, hrest]
  have hread := ofHead?_singleSpaced head
  rw [h, Option.map_some, ← hsame, ofHead?_singleSpaced] at hread
  exact Option.map_eq_some_iff.mp hread

/-! ## Statements -/

/-- Two semicolons are at the end of a text behind a space only if they are at its own end. -/
theorem endsWith_semicolons_append {text : Text} (hne : text ≠ [])
    (h : endsWith ";;" text = false) (front : Text) :
    endsWith ";;" (front ++ ' ' :: text) = false := by
  rw [Bool.eq_false_iff] at h ⊢
  refine fun hends => h (List.isSuffixOf_iff_suffix.mpr ?_)
  have hlength : ";;".toList.length ≤ (' ' :: text).length := by
    have hpositive := List.length_pos_of_ne_nil hne
    simpa using Nat.succ_le_of_lt hpositive
  have hsuffix := List.suffix_of_suffix_length_le (List.isSuffixOf_iff_suffix.mp hends)
    (List.suffix_append front (' ' :: text)) hlength
  rcases List.suffix_cons_iff.mp hsuffix with heq | hsuffix
  · exact absurd (List.cons.inj heq).1 (by decide)
  · exact hsuffix

/-- The first line of a statement is no directive, and it ends as that of the source does. -/
theorem opensStatement {c : Char} (hc : isBlank c = false) {first : Text}
    (h : endsWith ";;" (trim (c :: first)) = false) (word : Text) :
    Dump.delimiterDirective? (trim ("CREATE DEFINER=CURRENT_USER ".toList ++ word ++ " ".toList ++
        c :: first)) = none ∧
      endsWith ";;" (trim ("CREATE DEFINER=CURRENT_USER ".toList ++ word ++ " ".toList ++
        c :: first)) = false := by
  have hleft : trimLeft ("CREATE DEFINER=CURRENT_USER ".toList ++ word ++ " ".toList ++
      c :: first) = "CREATE DEFINER=CURRENT_USER ".toList ++ word ++ " ".toList ++ c :: first := rfl
  have hright : trimRight (c :: first) ≠ [] := by simp [trimRight_cons_of_neg hc]
  rw [trim, hleft, trimRight_append hright, trimRight_cons_of_neg hc, ← trim_cons hc]
  refine ⟨rfl, ?_⟩
  have hspace := endsWith_semicolons_append (by simp [trim_cons hc]) h
    ("CREATE DEFINER=CURRENT_USER ".toList ++ word)
  simpa using hspace

/-- What stands between the directives of the statement is one statement. -/
theorem statements_createStatement {routine : Routine} (hword : IsWord routine.kind.word)
    (hne : routine.source ≠ []) (htrim : trim routine.source = routine.source)
    (hlines : ∀ line ∈ lines routine.source, endsWith ";;" (trim line) = false ∧
      Dump.delimiterDirective? (trim line) = none) :
    Dump.statements routine.createStatement = ["CREATE DEFINER=CURRENT_USER ".toList ++
      (routine.kind.word ++ ' ' :: trimLines routine.source)] := by
  obtain ⟨c, source, hsource⟩ := List.exists_cons_of_ne_nil hne
  have hc : isBlank c = false := head?_trim c (by rw [htrim, hsource]; rfl)
  have hbody : routine.createStatement = "DELIMITER ".toList ++ ";;".toList ++ '\n' ::
      ("CREATE DEFINER=CURRENT_USER ".toList ++ routine.kind.word ++ " ".toList ++ (c :: source) ++
        ";;".toList ++ '\n' :: "DELIMITER ;".toList) := by
    have hstatement : routine.createStatement =
        "DELIMITER ;;\nCREATE DEFINER=CURRENT_USER ".toList ++ routine.kind.word ++ " ".toList ++
          routine.source ++ ";;\nDELIMITER ;".toList := rfl
    have hset : "DELIMITER ;;\nCREATE DEFINER=CURRENT_USER ".toList = "DELIMITER ".toList ++
        ";;".toList ++ '\n' :: "CREATE DEFINER=CURRENT_USER ".toList := by decide
    have hreset : ";;\nDELIMITER ;".toList = ";;".toList ++ '\n' :: "DELIMITER ;".toList := by
      decide
    rw [hstatement, hset, hreset, hsource]
    simp only [List.append_assoc, List.cons_append]
  have hfront : '\n' ∉
      "CREATE DEFINER=CURRENT_USER ".toList ++ routine.kind.word ++ " ".toList := by
    simp only [List.mem_append, not_or]
    exact ⟨⟨by decide, fun hmem => absurd (hword.isBlank _ hmem) (by decide)⟩, by decide⟩
  have hlast : ∀ d ∈ ("CREATE DEFINER=CURRENT_USER ".toList ++ routine.kind.word ++ " ".toList ++
      c :: source).getLast?, isBlank d = false := by
    rw [List.getLast?_append_of_ne_nil _ (by simp), ← hsource, ← htrim]
    exact getLast?_trim
  have hinner : ∀ line ∈ lines ("CREATE DEFINER=CURRENT_USER ".toList ++ routine.kind.word ++
      " ".toList ++ c :: source), Dump.delimiterDirective? (trim line) = none ∧
        endsWith ";;" (trim line) = false := by
    obtain ⟨first, more, hfirst⟩ := exists_lines_cons hc source
    rw [hsource, hfirst] at hlines
    obtain ⟨hopens, hmore⟩ := List.forall_mem_cons.mp hlines
    rw [lines_append_of_notMem hfront, hfirst, List.modifyHead_cons]
    exact List.forall_mem_cons.mpr
      ⟨opensStatement hc hopens.1 _, fun line hline => (hmore line hline).symm⟩
  have hstatement := Dump.statements_delimited (show IsWord ";;".toList from ⟨by decide, by decide⟩)
    (by decide) (by simp) (fun d hd => by cases hd; decide) hlast hinner
  rw [hbody, hstatement, trimLines_append hfront hc, hsource]
  simp

/-! ## Reading back -/

section

variable {text : Text} {routine : Routine}

/-- The source of a routine that was read, between its keyword and two semicolons, is read as the
same routine of the current user. -/
theorem parse_source (h : parse text = .ok routine) :
    parse ("CREATE DEFINER=CURRENT_USER ".toList ++ routine.kind.word ++ " ".toList ++
      routine.source ++ ";;".toList) = .ok { routine with definer := "CURRENT_USER" } := by
  obtain ⟨head, hhead, hread⟩ := parse_eq_ok.mp h
  have hformed := wellFormed_of_head? hhead
  obtain ⟨hkind, hsource, -⟩ := of_ofHead? hread
  have hfound := head?_eq_some hformed (show isEnd ";;".toList = true from rfl)
    (fun c hc => by cases hc; rfl)
    fun inside hne hinside => isEnd_append_eq_false hne hinside hformed.getLast?
  have hcurrent := ofHead?_definer head "CURRENT_USER"
  rw [hread, Option.map_some] at hcurrent
  refine parse_eq_ok.mpr ⟨_, ?_, hcurrent⟩
  rw [hkind, hsource]
  simpa using hfound

/-- So is the statement that creates the routine, but for the spacing of its texts. -/
theorem parse_enclosedStatement (h : parse text = .ok routine)
    (hlines : ∀ line ∈ lines routine.source, endsWith ";;" (trim line) = false ∧
      Dump.delimiterDirective? (trim line) = none)
    (hsemicolon : endsWith ";" routine.source = false) :
    ∃ statement again, Dump.statements routine.createStatement = [statement] ∧
      parse statement = .ok again ∧ again.kind = routine.kind ∧ again.name = routine.name ∧
      again.signature = routine.signature := by
  obtain ⟨head, hhead, hread⟩ := parse_eq_ok.mp h
  have hformed := wellFormed_of_head? hhead
  obtain ⟨hkind, hsource, hne⟩ := of_ofHead? hread
  have hstatements := statements_createStatement (hkind ▸ hformed.isWord) (hsource ▸ hne)
    (hsource ▸ hformed.trim_rest) hlines
  rw [hkind, hsource] at hstatements
  -- the head in front of the source without the blanks at the ends of its lines
  have htrimmed : Head.WellFormed { head with rest := trimLines head.rest } :=
    ⟨hformed.word, hformed.ofSpelling_word, trim_trimLines hformed.trim_rest⟩
  have hends : ∀ c ∈ (trimLines head.rest).getLast?, isBlank c = false ∧ c ≠ ';' := by
    rw [getLast?_trimLines hformed.getLast?]
    refine fun c hc => ⟨hformed.getLast? c hc, ?_⟩
    rintro rfl
    obtain ⟨front, hfront⟩ := List.getLast?_eq_some_iff.mp hc
    rw [hsource, hfront, Bool.eq_false_iff] at hsemicolon
    exact hsemicolon (List.isSuffixOf_iff_suffix.mpr (List.suffix_append front ";".toList))
  have hfound := head?_eq_some htrimmed (show isEnd [] = true from rfl) (by simp)
    fun inside hneInside hinside => by
      rw [List.append_nil]
      exact isEnd_eq_false hneInside hinside hends
  rw [List.append_nil] at hfound
  have hcurrent := ofHead?_definer head "CURRENT_USER"
  rw [hread, Option.map_some] at hcurrent
  obtain ⟨again, hagain, hsame⟩ :=
    ofHead?_of_singleSpaced hcurrent (singleSpaced_trimLines hformed.getLast?)
  refine ⟨_, again, hstatements, parse_eq_ok.mpr ⟨_, hfound, hagain⟩, ?_, ?_, ?_⟩
  · exact (congrArg kind hsame :)
  · exact (congrArg name hsame :)
  · rw [← signature_singleSpaced, hsame, signature_singleSpaced]
    rfl

/-- A routine that was read is read again from its source, and it is compared as before when it is
read from the statement that creates it. -/
theorem parse_readBack (h : parse text = .ok routine) :
    parse ("CREATE DEFINER=CURRENT_USER ".toList ++ routine.kind.word ++ " ".toList ++
        routine.source ++ ";;".toList) = .ok { routine with definer := "CURRENT_USER" } ∧
    ((∀ line ∈ lines routine.source, endsWith ";;" (trim line) = false ∧
        Dump.delimiterDirective? (trim line) = none) →
      endsWith ";" routine.source = false →
        ∃ statement again, Dump.statements routine.createStatement = [statement] ∧
          parse statement = .ok again ∧ again.kind = routine.kind ∧ again.name = routine.name ∧
          again.signature = routine.signature) :=
  ⟨parse_source h, parse_enclosedStatement h⟩

/-- A procedure with blanks at the ends of its lines and a semicolon in its body. -/
def paddedProcedure : Routine where
  name := "p".toList
  kind := .procedure
  parameters := "IN a INT".toList
  characteristics := ["comment 'x y'".toList]
  body := unlines ["BEGIN".toList, "  SELECT 1; ".toList, "END".toList]
  definer := "root".toList
  source := unlines ["p (IN a INT)  ".toList, " comment 'x  y' ".toList, "BEGIN".toList,
    "  SELECT 1; ".toList, "END".toList]

theorem parse_readBack_paddedProcedure :
    parse ("create definer = root procedure ".toList ++ paddedProcedure.source ++ "; ".toList) =
        .ok paddedProcedure ∧
      (∀ line ∈ lines paddedProcedure.source, endsWith ";;" (trim line) = false ∧
        Dump.delimiterDirective? (trim line) = none) ∧
      endsWith ";" paddedProcedure.source = false ∧
      ∃ statement again, Dump.statements paddedProcedure.createStatement = [statement] ∧
        parse statement = .ok again ∧ again.signature = paddedProcedure.signature := by
  have hread : parse ("create definer = root procedure ".toList ++ paddedProcedure.source ++
      "; ".toList) = .ok paddedProcedure := by decide +kernel
  have hlines : ∀ line ∈ lines paddedProcedure.source, endsWith ";;" (trim line) = false ∧
      Dump.delimiterDirective? (trim line) = none := by decide +kernel
  have hsemicolon : endsWith ";" paddedProcedure.source = false := by decide
  obtain ⟨statement, again, hstatement, hparse, -, -, hsignature⟩ :=
    (parse_readBack hread).2 hlines hsemicolon
  exact ⟨hread, hlines, hsemicolon, statement, again, hstatement, hparse, hsignature⟩

end

end Routine

end SchemaMigration
