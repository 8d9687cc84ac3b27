import SchemaMigration.Proofs.Migration.Agreement
import SchemaMigration.Proofs.Migration.TableChanges
import SchemaMigration.Proofs.Migration.TableState
import SchemaMigration.Proofs.Table.TolerantOptions

/-!
# Table options behind a migration

The options of a table are changed by what stands behind `ALTER TABLE`: an empty comment in front of
it goes, and the rest is what the table has from then on. Whether it is compared equal to what was
wanted is told from that alone.

## Main Definitions

* `withoutEmptyComment` - options without an empty comment in front
* `TableState.execute` - the state behind the statement of a change
* `TableComparison.optionState` - the state behind all statements about options
* `TableComparison.optionChanges_again` - when the options of that state are changed once more
-/

namespace SchemaMigration

open Text

/-! ## Quotes -/

/-- What a recogniser takes that stops at a character does not have it. -/
theorem Text.StopsAt.count_eq {stop : Char} {find : Text → Option Text} (h : StopsAt stop find)
    {text rest : Text} (hrest : find text = some rest) : rest.count stop = text.count stop := by
  by_cases hmem : stop ∈ text
  · obtain ⟨front, back, rfl, hfront⟩ := List.eq_append_cons_of_mem hmem
    rw [h.append] at hrest
    obtain ⟨left, hleft, rfl⟩ := Option.map_eq_some_iff.mp hrest
    have hnot : stop ∉ left := fun hin => hfront ((h.suffix _ _ hleft).subset hin)
    rw [List.count_append, List.count_append, List.count_eq_zero.mpr hfront,
      List.count_eq_zero.mpr hnot]
  · rw [List.count_eq_zero.mpr hmem,
      List.count_eq_zero.mpr fun hin => hmem ((h.suffix _ _ hrest).subset hin)]

/-- What is taken out of a text is as often in it then, if nothing that goes has it. -/
theorem Text.count_replaceMatchesFrom {recognise : Option Char → Text → Option (Text × Text)}
    {c : Char} (h : ∀ previous text found, recognise previous text = some found →
      found.1 = [] ∧ found.2 <:+ text.tail ∧ found.2.count c = text.count c)
    (previous : Option Char) (text : Text) :
    (replaceMatchesFrom recognise previous 0 text).count c = text.count c := by
  induction hn : text.length using Nat.strong_induction_on generalizing previous text with
  | _ n ih =>
      cases text with
      | nil => rw [replaceMatchesFrom]
      | cons d text =>
          cases hfound : recognise previous (d :: text) with
          | none =>
              rw [replaceMatchesFrom_of_none hfound, List.count_cons, List.count_cons,
                ih text.length (by simp [← hn]) (some d) text rfl]
          | some found =>
              obtain ⟨replacement, rest⟩ := found
              obtain ⟨rfl, hrest, hcount⟩ := h _ _ _ hfound
              obtain ⟨used, rfl⟩ : ∃ used, used ++ rest = text := hrest
              have hlength : rest.length < n := by
                simp only [List.length_cons, List.length_append] at hn
                omega
              have hstep := replaceMatchesFrom_of_some (List.cons_ne_nil d used) hfound
              rw [← List.cons_append, hstep, List.nil_append, ih rest.length hlength _ rest rfl]
              exact hcount

theorem count_of_blank {c : Char} (hc : isBlank c = false) {pad : Text}
    (hpad : ∀ d ∈ pad, isBlank d = true) : pad.count c = 0 := by
  refine List.count_eq_zero.mpr fun hmem => ?_
  rw [hpad c hmem] at hc
  cases hc

theorem count_trimLeft {c : Char} (hc : isBlank c = false) (text : Text) :
    (trimLeft text).count c = text.count c := by
  have htext : text = text.takeWhile isBlank ++ trimLeft text :=
    (List.takeWhile_append_dropWhile ..).symm
  conv_rhs => rw [htext, List.count_append,
    count_of_blank hc fun d hd => List.mem_takeWhile_imp hd, Nat.zero_add]

theorem count_trim {c : Char} (hc : isBlank c = false) (text : Text) :
    (trim text).count c = text.count c := by
  obtain ⟨front, back, htext, hfront, hback⟩ := exists_trim text
  conv_rhs => rw [htext, List.count_append, List.count_append, count_of_blank hc hfront,
    count_of_blank hc hback, Nat.zero_add, Nat.add_zero]

section

variable {c : Char} (hparts : partsSettings c = true) (hc : isBlank c = false)

include hparts hc

theorem count_withoutCounter (text : Text) : (withoutCounter text).count c = text.count c := by
  refine count_replaceMatchesFrom (fun previous text found hfound => ?_) none text
  obtain ⟨hnil, hrest⟩ := suffix_of_counterSetting? hfound
  refine ⟨hnil, hrest, ?_⟩
  rw [counterSetting?_eq] at hfound
  obtain ⟨word, hword, hfound⟩ := Option.bind_eq_some_iff.mp hfound
  obtain ⟨rest, hbehind, rfl⟩ := Option.map_eq_some_iff.mp hfound
  rw [(endsSetting_of_partsSettings hparts).stopsAt.count_eq hbehind]
  cases text with
  | nil => cases hword
  | cons d text =>
      simp only [atWord?, Option.ite_none_right_eq_some, Option.some.injEq] at hword
      rw [← hword.2, count_trimLeft hc]

theorem count_withoutSetting {keyword : Text} {inside : Char → Bool}
    (hstops : StopsApart keyword inside) (text : Text) :
    (withoutSetting keyword inside text).count c = text.count c := by
  refine count_replaceMatchesFrom (fun previous text found hfound => ?_) none text
  obtain ⟨rest, hrest, rfl⟩ := Option.map_eq_some_iff.mp hfound
  refine ⟨rfl, ?_, ?_⟩
  · obtain ⟨used, rfl, hused⟩ := exists_of_spacedSetting? hrest
    cases used with
    | nil => simp at hused
    | cons d used => exact List.suffix_append used rest
  · cases text with
    | nil =>
        obtain ⟨used, hnil, hused⟩ := exists_of_spacedSetting? hrest
        rw [(List.append_eq_nil_iff.mp hnil.symm).2]
    | cons d text =>
        by_cases hd : d = ' '
        · subst hd
          have hne : ' ' ≠ c := by
            rintro rfl
            exact absurd hc (by decide)
          rw [List.count_cons_of_ne hne]
          exact (hstops c hparts).count_eq hrest
        · rw [spacedSetting?_of_ne hd, Option.ite_none_right_eq_some] at hrest
          exact (hstops c hparts).count_eq hrest.2

theorem count_normalOptions (text : Text) : (normalOptions text).count c = text.count c := by
  rw [normalOptions, count_trim hc, withoutCollation,
    count_withoutSetting hparts hc stopsApart_collation, withoutSpacedCounter,
    count_withoutSetting hparts hc stopsApart_counter]

end

/-! ## Empty comments -/

/-- What stands behind an empty comment at the beginning of options. -/
def behindEmptyComment? (clause : Text) : Option Text :=
  match after? "COMMENT=''" clause with
  | some [] => some []
  | some (' ' :: rest) => some (trim rest)
  | _ => none

/-- Options without an empty comment in front. -/
def withoutEmptyComment (clause : Text) : Text := (behindEmptyComment? clause).getD clause

theorem count_behindEmptyComment? {clause rest : Text}
    (h : behindEmptyComment? clause = some rest) : rest.count '\x27' < clause.count '\x27' := by
  rw [behindEmptyComment?] at h
  split at h
  · rename_i hafter
    obtain rfl := eq_append_of_after? hafter
    obtain rfl := Option.some.inj h
    decide
  · rename_i behind hafter
    obtain rfl := eq_append_of_after? hafter
    obtain rfl := Option.some.inj h
    rw [count_trim (by decide), List.count_append, List.count_cons_of_ne (by decide)]
    exact Nat.lt_add_of_pos_left (by decide)
  · cases h

/-- An empty comment that was put in front goes. -/
theorem withoutEmptyComment_clause {options : Text} (htrim : trim options = options) :
    withoutEmptyComment (TableChange.changeOptions true options).clause = options := by
  have hspace : ("COMMENT='' " : Text) = "COMMENT=''".toList ++ [' '] := by decide +kernel
  have hlead : ("COMMENT='' " : Text) ++ options = "COMMENT=''".toList ++ ' ' :: options := by
    rw [hspace, List.append_assoc]
    rfl
  rcases eq_or_ne options [] with rfl | hnil
  · have hclause : (TableChange.changeOptions true []).clause = "COMMENT=''" := by decide +kernel
    rw [hclause]
    decide +kernel
  · have hlast : ∀ c ∈ (("COMMENT='' " : Text) ++ options).getLast?, isBlank c = false := by
      rw [List.getLast?_append_of_ne_nil _ hnil, ← htrim]
      exact getLast?_trim
    have hbehind : behindEmptyComment? ("COMMENT=''".toList ++ ' ' :: options) = some options := by
      rw [behindEmptyComment?, after?_self_append]
      exact congrArg some htrim
    have hclause : (TableChange.changeOptions true options).clause =
        trimRight ("COMMENT='' " ++ options) := rfl
    rw [hclause, trimRight_eq_self hlast, withoutEmptyComment, hlead, hbehind, Option.getD_some]

/-! ## Statements about options -/

/-- The state behind the statement of a change. The options that a table has then are those of the
clause. -/
def TableState.execute (s : TableState) (change : TableChange) : TableState :=
  match change with
  | .changeOptions _ _ => { s with baseOptions := withoutEmptyComment change.clause }
  | _ => s.apply change

namespace TableComparison

variable (c : TableComparison)

/-- The phases of statements about options. -/
def optionPhases : List Phase := [.removePartitioning, .changeOptions, .partitionTable]

/-- The changes of the options and of the partitioning, in order of execution. -/
def optionChanges : List TableChange := c.changes.filter fun change => change.phase ∈ optionPhases

/-- The state of the old table behind all statements about options. -/
def optionState : TableState := c.optionChanges.foldl TableState.execute (TableState.ofTable c.old)

variable {c}

theorem changesIn_changeOptions : c.changesIn .changeOptions =
    if c.changesOptions then [.changeOptions (! c.new.hasComment) c.targetOptions] else [] := by
  simp only [changesIn_eq, groups, optionSteps]
  split <;> simp

theorem changesIn_removePartitioning : c.changesIn .removePartitioning =
    if c.old.partitioning = c.new.partitioning ∨ c.old.partitioning = [] then []
    else [.removePartitioning] := by
  simp only [changesIn_eq, groups, List.filter_cons, decide_eq_true_eq, reduceCtorEq, if_false,
    if_true, List.filter_nil, List.flatMap_cons, List.flatMap_nil, List.append_nil]
  rw [partitioningSteps]
  by_cases hsame : c.old.partitioning = c.new.partitioning <;>
    by_cases hold : c.old.partitioning = [] <;>
    by_cases hnew : c.new.partitioning = [] <;> simp [hsame, hold, hnew, TableChange.phase]

theorem changesIn_partitionTable : c.changesIn .partitionTable =
    if c.old.partitioning = c.new.partitioning ∨ c.new.partitioning = [] then []
    else [.setPartitioning c.new.partitioning] := by
  simp only [changesIn_eq, groups, List.filter_cons, decide_eq_true_eq, reduceCtorEq, if_false,
    if_true, List.filter_nil, List.flatMap_cons, List.flatMap_nil, List.append_nil]
  rw [partitioningSteps]
  by_cases hsame : c.old.partitioning = c.new.partitioning <;>
    by_cases hold : c.old.partitioning = [] <;>
    by_cases hnew : c.new.partitioning = [] <;> simp [hsame, hold, hnew, TableChange.phase]

/-- Partitioning goes first, then the options are changed, and last new partitioning is set. -/
theorem optionChanges_eq : c.optionChanges = c.changesIn .removePartitioning ++
    (c.changesIn .changeOptions ++ c.changesIn .partitionTable) := by
  have hphase (p : Phase) : ((c.steps.map (·.change)).filter fun change =>
      change.phase ∈ optionPhases).filter (fun change => change.phase = p) =
        if p ∈ optionPhases then c.changesIn p else [] := by
    rw [List.filter_filter]
    split
    · rename_i hp
      refine List.filter_congr fun change _ => ?_
      by_cases hchange : change.phase = p <;> simp [hchange, hp]
    · rename_i hp
      refine List.filter_eq_nil_iff.mpr fun change _ => ?_
      by_cases hchange : change.phase = p <;> simp [hchange, hp]
  rw [optionChanges, changes, Phase.filter_arrange, Phase.arrange, funext hphase]
  simp [Phase.all, optionPhases]

theorem optionState_partitioning : c.optionState.partitioning = c.new.partitioning := by
  rw [optionState, optionChanges_eq, changesIn_removePartitioning, changesIn_changeOptions,
    changesIn_partitionTable]
  by_cases hsame : c.old.partitioning = c.new.partitioning
  · simp only [hsame, true_or, if_true]
    split <;> exact hsame
  · by_cases hnew : c.new.partitioning = []
    · have hold : c.old.partitioning ≠ [] := fun hold => hsame (hold.trans hnew.symm)
      simp only [hold, hnew, or_false, or_true, if_true, if_false]
      split <;> rfl
    · simp only [hsame, hnew, or_false, if_false]
      split <;> split <;> rfl

theorem optionState_baseOptions : c.optionState.baseOptions =
    if c.changesOptions then
      withoutEmptyComment (TableChange.changeOptions (! c.new.hasComment) c.targetOptions).clause
    else c.old.baseOptions := by
  rw [optionState, optionChanges_eq, changesIn_removePartitioning, changesIn_changeOptions,
    changesIn_partitionTable]
  split <;> split <;> split <;> rfl

/-! ## The next comparison -/

theorem changesIn_eq_nil_iff {p : Phase} :
    c.changesIn p = [] ↔ ∀ change ∈ c.changes, change.phase ≠ p := by
  rw [← c.filter_phase_changes p, List.filter_eq_nil_iff]
  simp

theorem trim_targetOptions : trim c.targetOptions = c.targetOptions := by
  rw [targetOptions]
  split
  · exact trim_trim _
  · rw [Table.baseOptions]
    split <;> exact trim_trim _

/-- The new options set a comment, and with it they begin with an empty one. -/
def KeepsEmptyComment (c : TableComparison) : Prop :=
  c.new.hasComment = true ∧ (behindEmptyComment? c.targetOptions).isSome = true

/-- Options that are compared have as many quotes as they have all in all. -/
theorem count_normalizeTableOptions (hrules : c.options.rules = defaultRules) (text : Text) :
    (c.options.normalizeTableOptions text).count '\x27' = text.count '\x27' := by
  cases htolerant : c.options.tolerant with
  | false => rw [Options.normalizeTableOptions, Options.normalize, htolerant, if_neg (by simp)]
  | true =>
      rw [Options.normalizeTableOptions_eq hrules htolerant,
        count_normalOptions (by decide +kernel) (by decide)]

theorem count_targetOptions : c.targetOptions.count '\x27' = c.new.baseOptions.count '\x27' := by
  rw [targetOptions]
  split
  · rw [count_trim (by decide), count_withoutCounter (by decide +kernel) (by decide)]
  · rfl

/-- The options that the table gets compare equal to the new ones just if the row counter has one
space in front wherever that matters. -/
theorem normalize_targetOptions_iff (hrules : c.options.rules = defaultRules)
    (hclosed : c.options.tolerant = true → CountersClosed c.new.baseOptions) :
    c.options.normalizeTableOptions c.targetOptions =
        c.options.normalizeTableOptions c.new.baseOptions ↔
      (c.options.tolerant = true → CountersSpaced c.new.baseOptions) := by
  cases htolerant : c.options.tolerant with
  | false => simp [targetOptions, htolerant]
  | true =>
      have htrim : trim c.new.baseOptions = c.new.baseOptions := by
        rw [Table.baseOptions]
        split <;> exact trim_trim _
      rw [targetOptions, if_pos htolerant, Options.normalizeTableOptions_eq hrules htolerant,
        Options.normalizeTableOptions_eq hrules htolerant,
        normalOptions_withoutCounter_iff htrim (hclosed htolerant)]
      simp

/-- What the clause leaves compares equal to the new options just if no empty comment is wanted in
front and the row counter is as it has to be. -/
theorem normalize_clause_iff (hrules : c.options.rules = defaultRules)
    (hclosed : c.options.tolerant = true → CountersClosed c.new.baseOptions) :
    c.options.normalizeTableOptions (withoutEmptyComment
        (TableChange.changeOptions (! c.new.hasComment) c.targetOptions).clause) =
        c.options.normalizeTableOptions c.new.baseOptions ↔
      ¬ c.KeepsEmptyComment ∧ (c.options.tolerant = true → CountersSpaced c.new.baseOptions) := by
  cases hcomment : c.new.hasComment with
  | false =>
      have hkeeps : ¬ c.KeepsEmptyComment := by simp [KeepsEmptyComment, hcomment]
      rw [Bool.not_false, withoutEmptyComment_clause trim_targetOptions,
        normalize_targetOptions_iff hrules hclosed, and_iff_right hkeeps]
  | true =>
      have hclause : (TableChange.changeOptions (! true) c.targetOptions).clause =
          c.targetOptions := rfl
      rw [hclause, withoutEmptyComment]
      cases hbehind : behindEmptyComment? c.targetOptions with
      | none =>
          have hkeeps : ¬ c.KeepsEmptyComment := by simp [KeepsEmptyComment, hbehind]
          rw [Option.getD_none, normalize_targetOptions_iff hrules hclosed, and_iff_right hkeeps]
      | some rest =>
          have hkeeps : c.KeepsEmptyComment := ⟨hcomment, by simp [hbehind]⟩
          -- the quotes of the comment are missing
          refine iff_of_false (fun heq => ?_) fun h => h.1 hkeeps
          have hquotes := congrArg (List.count '\x27') heq
          have hfewer := count_behindEmptyComment? hbehind
          rw [Option.getD_some, count_normalizeTableOptions hrules,
            count_normalizeTableOptions hrules, ← count_targetOptions] at hquotes
          omega

/-- Behind the statements about options the partitioning is as it is to be. The options are changed
once more just if they were changed, and begin with an empty comment that is wanted or, in tolerant
mode, have something else than one space in front of the row counter; in that mode neither a word
nor an equals sign may stand directly behind the row counter. -/
theorem optionChanges_again (hrules : c.options.rules = defaultRules) {after : Table}
    (hbase : after.baseOptions = c.optionState.baseOptions)
    (hpartitioning : after.partitioning = c.optionState.partitioning) :
    (∀ change ∈ ({ c with old := after } : TableComparison).changes,
      change.phase ≠ .removePartitioning ∧ change.phase ≠ .partitionTable) ∧
    ((c.options.tolerant = true → CountersClosed c.new.baseOptions) →
      ((∀ change ∈ ({ c with old := after } : TableComparison).changes,
          change.phase ≠ .changeOptions) ↔
        (c.changesOptions = true → ¬ c.KeepsEmptyComment ∧
          (c.options.tolerant = true → CountersSpaced c.new.baseOptions)))) := by
  let again : TableComparison := { c with old := after }
  have hsame : again.old.partitioning = again.new.partitioning :=
    hpartitioning.trans optionState_partitioning
  have hnone : again.changesIn .removePartitioning = [] ∧ again.changesIn .partitionTable = [] :=
    ⟨changesIn_removePartitioning.trans (if_pos (.inl hsame)),
      changesIn_partitionTable.trans (if_pos (.inl hsame))⟩
  refine ⟨fun change hchange => ⟨changesIn_eq_nil_iff.mp hnone.1 change hchange,
    changesIn_eq_nil_iff.mp hnone.2 change hchange⟩, fun hclosed => ?_⟩
  have hagain : (∀ change ∈ again.changes, change.phase ≠ .changeOptions) ↔
      c.options.normalizeTableOptions c.optionState.baseOptions =
        c.options.normalizeTableOptions c.new.baseOptions := by
    rw [← changesIn_eq_nil_iff, changesIn_changeOptions, ← hbase]
    simp [changesOptions, again]
  refine hagain.trans ?_
  rw [optionState_baseOptions]
  cases hchanges : c.changesOptions with
  | false => simpa [changesOptions] using hchanges
  | true => rw [if_pos rfl, forall_prop_of_true rfl, normalize_clause_iff hrules hclosed]

/-- A table with the given options. -/
def tableWithOptions (options : Text) : Table where
  name := "t"
  columns := [⟨"a", "int", 0⟩]
  indexes := []
  primaryKey := none
  foreignKeys := []
  checks := []
  options := options
  definition := "CREATE TABLE t (\n  a int\n) " ++ options ++ ";"

/-- In tolerant mode, options with two spaces in front of the row counter, and what they become. -/
def twoSpaces : TableComparison where
  old := tableWithOptions "ENGINE=InnoDB DEFAULT CHARSET=utf8"
  new := tableWithOptions "ENGINE=InnoDB  AUTO_INCREMENT=5 DEFAULT CHARSET=utf8"
  options := { Options.default with tolerant := true }
  incoming := []

/-- The statement changes nothing, and the next comparison has it again. -/
theorem optionChanges_again_twoSpaces :
    twoSpaces.optionState.baseOptions = twoSpaces.old.baseOptions ∧
    twoSpaces.optionState.partitioning = twoSpaces.old.partitioning ∧
    ¬ ∀ change ∈ twoSpaces.changes, change.phase ≠ .changeOptions := by
  have hrules : twoSpaces.options.rules = defaultRules := by rw [twoSpaces, Options.default]
  have htolerant : twoSpaces.options.tolerant = true := rfl
  have hbase : twoSpaces.optionState.baseOptions = twoSpaces.old.baseOptions := by
    rw [optionState_baseOptions]
    split
    · decide +kernel
    · rfl
  have hpartitioning : twoSpaces.optionState.partitioning = twoSpaces.old.partitioning := by
    rw [optionState_partitioning]
    decide +kernel
  have hchanges : twoSpaces.changesOptions = true := by
    rw [changesOptions, Options.normalizeTableOptions_eq hrules htolerant,
      Options.normalizeTableOptions_eq hrules htolerant]
    decide +kernel
  have hclosed : CountersClosed twoSpaces.new.baseOptions := by
    have hall : ∀ rest ∈ twoSpaces.new.baseOptions.tails, ∀ back ∈ behindSetting? rest,
        ∀ c ∈ back.head?, partsSettings c = true := by decide +kernel
    exact fun front rest back htext _ hback =>
      hall rest ((List.mem_tails _ _).mpr ⟨front, htext.symm⟩) back hback
  have hspaced : ¬ CountersSpaced twoSpaces.new.baseOptions := by
    intro hspaced
    have hpad := hspaced "ENGINE=InnoDB" "  " "AUTO_INCREMENT=5 DEFAULT CHARSET=utf8"
      (by decide +kernel) (by decide +kernel) (by decide +kernel) (by decide +kernel)
      (by decide +kernel) (by decide +kernel) (by decide +kernel)
    exact absurd hpad (by decide +kernel)
  refine ⟨hbase, hpartitioning, fun hnone => hspaced ?_⟩
  have hagain := ((optionChanges_again (c := twoSpaces) hrules hbase.symm
    hpartitioning.symm).2 fun _ => hclosed).mp hnone
  exact (hagain hchanges).2 htolerant

end TableComparison

end SchemaMigration
