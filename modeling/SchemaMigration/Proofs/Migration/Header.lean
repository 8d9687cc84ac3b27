import SchemaMigration.Proofs.Table.OneLine
import SchemaMigration.Report

/-!
# Headers for machines

A header gives the names of its statement as they are, without escapes, so a name may look like the
quotes, commas and brackets around it. It is read back all the same: each name has a line of its
own, and what stands around it on that line is known. Only a newline in a name would be read as the
end of its line.

## Main Definitions

* `Entry` - what a header says of its statement
* `Entry.lines`, `Entry.ofLines?` - the lines of a header, and a reader of them
* `Entry.ofLines?_eq_some_iff` - the reader accepts the lines of a header, whatever is below them
* `entries?` - a reader of listings
* `entries?_eq_some_iff` - it accepts the listings of names without newlines, and no other text
* `renderReferences_eq_iff` - the text of a header or a listing tells what it is about

## Design Notes

A comma behind a value says that the block goes on, so the end of each line tells what the next one
is, and the reader never has to try a line in two ways.
-/

namespace SchemaMigration.Report

open Text

/-! ## Lines with a value -/

/-- What stands behind a value: a quote, and a comma if the block goes on. -/
def valueEnd (goesOn : Bool) : Text := if goesOn then "\x22," else "\x22"

/-- A line with a value in quotes behind a label. -/
def valueLine (label value : Text) (goesOn : Bool) : Text :=
  label ++ "\x22" ++ (value ++ valueEnd goesOn)

/-- The value on a line behind a label, and whether the block goes on. -/
def valueOfLine? (label line : Text) : Option (Text × Bool) :=
  let goesOn := endsWith "," line
  (after? (label ++ "\x22") line).bind fun rest =>
    (rest.dropSuffix? (valueEnd goesOn)).map fun value => (value, goesOn)

theorem valueLine_true (label value : Text) :
    valueLine label value true = label ++ inQuotes value ++ "," := by
  simp [valueLine, valueEnd, inQuotes]

theorem valueLine_false (label value : Text) :
    valueLine label value false = label ++ inQuotes value := by
  simp [valueLine, valueEnd, inQuotes]

section

variable {label line value : Text} {goesOn : Bool}

/-- A value ends with its quote, so a comma at the end of the line is none of the value. -/
theorem endsWith_comma_valueLine : endsWith "," (valueLine label value goesOn) = goesOn := by
  cases goesOn <;> simp [endsWith, valueLine, valueEnd, List.isSuffixOf, List.isPrefixOf]

/-- A value is read off the lines that show it, and off no other line. -/
theorem valueOfLine?_eq_some_iff :
    valueOfLine? label line = some (value, goesOn) ↔ line = valueLine label value goesOn := by
  constructor
  · intro h
    obtain ⟨rest, hrest, hvalue⟩ := Option.bind_eq_some_iff.mp h
    obtain ⟨_, hdrop, heq⟩ := Option.map_eq_some_iff.mp hvalue
    obtain ⟨rfl, rfl⟩ := Prod.mk.inj heq
    obtain ⟨ending, rfl, hending⟩ := List.dropSuffix?_eq_some_iff.mp hdrop
    rw [valueLine, ← eq_of_beq hending]
    exact eq_append_of_after? hrest
  · rintro rfl
    have hdrop : (value ++ valueEnd goesOn).dropSuffix? (valueEnd goesOn) = some value :=
      List.dropSuffix?_eq_some_iff.mpr ⟨_, rfl, BEq.rfl⟩
    rw [valueOfLine?, endsWith_comma_valueLine, valueLine, after?_self_append]
    simp [hdrop]

theorem isOneLine_valueLine (hlabel : IsOneLine label) :
    IsOneLine (valueLine label value goesOn) ↔ IsOneLine value := by
  have hend : IsOneLine (valueEnd goesOn) := by cases goesOn <;> decide
  have hquote : IsOneLine "\x22" := by decide
  simp only [valueLine, isOneLine_append, hlabel, hquote, hend, true_and, and_true]

end

/-! ## Lines of a header -/

/-- What a header says of its statement. -/
structure Entry where
  name : Text
  action : Text
  referencedTables : List Text

/-- What the header of a statement says. -/
def entry (statement : Statement) : Entry :=
  ⟨statement.name, statement.action, statement.referencedTables⟩

def opening : Text := "-- \x7b"

def closing : Text := "-- \x7d"

def nameLabel : Text := "-- \t\x22name\x22 : "

def actionLabel : Text := "-- \t\x22action_type\x22 : "

def listOpening : Text := "-- \t\x22referenced_tables\x22 : ["

def listClosing : Text := "-- \t]"

def referenceLabel : Text := "-- \t\t"

/-- A line for each reference; the list goes on behind each but the last one. -/
def referenceLines : List Text → List Text
  | [] => []
  | ref :: refs => valueLine referenceLabel ref (! refs.isEmpty) :: referenceLines refs

/-- The list of references, if there are any. -/
def listLines (refs : List Text) : List Text :=
  if refs.isEmpty then [] else listOpening :: referenceLines refs ++ [listClosing]

/-- The lines of a header. -/
def Entry.lines (entry : Entry) : List Text :=
  [opening, valueLine nameLabel entry.name true,
    valueLine actionLabel entry.action (! entry.referencedTables.isEmpty)] ++
  listLines entry.referencedTables ++ [closing]

/-- The references, with a comma and a newline between each two of them, are their lines. -/
theorem join_references {refs : List Text} (hne : refs ≠ []) :
    join ",\n" (refs.map fun ref => "-- \t\t" ++ inQuotes ref) =
      unlines (referenceLines refs) := by
  induction refs with
  | nil => exact absurd rfl hne
  | cons ref refs ih =>
      rw [referenceLines]
      cases refs with
      | nil =>
          rw [List.isEmpty_nil, Bool.not_true, valueLine_false]
          rfl
      | cons next refs =>
          have hlines : referenceLines (next :: refs) ≠ [] := by simp [referenceLines]
          rw [unlines_cons_of_ne_nil _ hlines, ← ih (by simp), List.isEmpty_cons, Bool.not_false,
            valueLine_true]
          simp [join, referenceLabel]

/-- Lines that are joined among others are lines among them. -/
theorem unlines_append_unlines_cons (front : List Text) {block : List Text} (hblock : block ≠ [])
    (rest : List Text) :
    unlines (front ++ unlines block :: rest) = unlines (front ++ (block ++ rest)) := by
  have hbelow : unlines (unlines block :: rest) = unlines (block ++ rest) := by
    by_cases hrest : rest = []
    · simp [hrest, unlines, join]
    · rw [unlines_cons_of_ne_nil _ hrest, unlines_append hblock hrest]
  by_cases hfront : front = []
  · rw [hfront]
    exact hbelow
  · rw [unlines_append hfront (by simp), unlines_append hfront (by simp [hblock]), hbelow]

/-- A header is its lines, each with a newline behind it. -/
theorem header_eq (statement : Statement) :
    header statement true = unlines (entry statement).lines ++ "\n" := by
  cases hrefs : statement.referencedTables with
  | nil =>
      simp only [header, Entry.lines, listLines, entry, hrefs, List.isEmpty_nil, Bool.not_true,
        Bool.and_false, valueLine_true, valueLine_false]
      rfl
  | cons ref refs =>
      have hne : referenceLines (ref :: refs) ≠ [] := by simp [referenceLines]
      have hlist := unlines_append_unlines_cons
        [opening, nameLabel ++ inQuotes statement.name ++ ",",
          actionLabel ++ inQuotes statement.action ++ ",", listOpening] hne [listClosing, closing]
      simp only [header, Entry.lines, listLines, entry, hrefs, List.isEmpty_cons, Bool.not_false,
        Bool.true_and, if_pos, valueLine_true, join_references (List.cons_ne_nil ref refs),
        Bool.false_eq_true, if_false, List.append_assoc, List.cons_append, List.nil_append]
      exact congrArg (· ++ "\n".toList) hlist

/-! ## Reading a header -/

/-- The lines below a line that is as it has to be. -/
def below? (expected : Text) : List Text → Option (List Text)
  | [] => none
  | line :: below => if line = expected then some below else none

/-- The value on the first line, whether the block goes on, and the lines below. -/
def value? (label : Text) : List Text → Option ((Text × Bool) × List Text)
  | [] => none
  | line :: below => (valueOfLine? label line).map fun value => (value, below)

/-- The references up to the one where the list ends, and the lines below. -/
def references? : List Text → Option (List Text × List Text)
  | [] => none
  | line :: below =>
    match valueOfLine? referenceLabel line with
    | none => none
    | some (ref, false) => some ([ref], below)
    | some (ref, true) => (references? below).map fun (refs, below) => (ref :: refs, below)

/-- The list of references, if one is announced, and the lines below it. -/
def list? (refers : Bool) (lines : List Text) : Option (List Text × List Text) :=
  if refers then do
    let lines ← below? listOpening lines
    let (refs, lines) ← references? lines
    let lines ← below? listClosing lines
    return (refs, lines)
  else some ([], lines)

/-- What a header says, and the lines below it. -/
def Entry.ofLines? (lines : List Text) : Option (Entry × List Text) := do
  let lines ← below? opening lines
  let ((name, _), lines) ← (value? nameLabel lines).filter (·.1.2)
  let ((action, refers), lines) ← value? actionLabel lines
  let (refs, lines) ← list? refers lines
  let lines ← below? closing lines
  return (⟨name, action, refs⟩, lines)

section

variable {lines below refs : List Text}

theorem below?_eq_some_iff {expected : Text} :
    below? expected lines = some below ↔ lines = expected :: below := by
  cases lines with
  | nil => simp [below?]
  | cons line lines =>
      rw [below?]
      split
      · rename_i heq
        simp [heq]
      · rename_i hne
        simp [hne]

theorem value?_eq_some_iff {label value : Text} {goesOn : Bool} :
    value? label lines = some ((value, goesOn), below) ↔
      lines = valueLine label value goesOn :: below := by
  cases lines with
  | nil => simp [value?]
  | cons line lines =>
      rw [value?, Option.map_eq_some_iff, List.cons.injEq, ← valueOfLine?_eq_some_iff]
      constructor
      · rintro ⟨read, hread, heq⟩
        cases heq
        exact ⟨hread, rfl⟩
      · rintro ⟨hread, rfl⟩
        exact ⟨_, hread, rfl⟩

/-- The lines of references end with the first one that no comma follows. -/
theorem references?_eq_some_iff :
    references? lines = some (refs, below) ↔ refs ≠ [] ∧ lines = referenceLines refs ++ below := by
  induction lines generalizing refs with
  | nil => cases refs <;> simp [references?, referenceLines]
  | cons line lines ih =>
      constructor
      · intro h
        rw [references?] at h
        split at h
        · cases h
        · rename_i ref hline
          cases h
          rw [valueOfLine?_eq_some_iff.mp hline]
          exact ⟨by simp, rfl⟩
        · rename_i ref hline
          obtain ⟨⟨more, rest⟩, hmore, heq⟩ := Option.map_eq_some_iff.mp h
          cases heq
          obtain ⟨hne, rfl⟩ := ih.mp hmore
          have hgoesOn : more.isEmpty = false := List.isEmpty_eq_false_iff.mpr hne
          rw [valueOfLine?_eq_some_iff.mp hline, referenceLines, hgoesOn]
          exact ⟨by simp, rfl⟩
      · rintro ⟨hne, heq⟩
        obtain ⟨ref, more, rfl⟩ := List.exists_cons_of_ne_nil hne
        rw [referenceLines, List.cons_append, List.cons.injEq] at heq
        obtain ⟨rfl, rfl⟩ := heq
        rw [references?, valueOfLine?_eq_some_iff.mpr rfl]
        cases more with
        | nil => rfl
        | cons next more => simp [ih.mpr ⟨List.cons_ne_nil next more, rfl⟩]

/-- A list is read where one is announced, which is so just if there are references. -/
theorem list?_eq_some_iff {refers : Bool} :
    list? refers lines = some (refs, below) ↔
      refers = (! refs.isEmpty) ∧ lines = listLines refs ++ below := by
  cases refers with
  | false => cases refs <;> simp [list?, listLines]
  | true =>
      rw [list?, if_pos rfl]
      constructor
      · intro h
        obtain ⟨_, hopening, h⟩ := Option.bind_eq_some_iff.mp h
        obtain ⟨⟨_, _⟩, hrefs, h⟩ := Option.bind_eq_some_iff.mp h
        obtain ⟨_, hclosing, heq⟩ := Option.bind_eq_some_iff.mp h
        cases heq
        obtain ⟨hne, rfl⟩ := references?_eq_some_iff.mp hrefs
        rw [below?_eq_some_iff.mp hopening, below?_eq_some_iff.mp hclosing]
        simp [listLines, hne]
      · rintro ⟨hrefers, rfl⟩
        have hne : refs ≠ [] := by simpa using hrefers
        have hlist : listLines refs ++ below =
            listOpening :: (referenceLines refs ++ listClosing :: below) := by
          simp [listLines, hne]
        have hrefs : references? (referenceLines refs ++ listClosing :: below) =
            some (refs, listClosing :: below) := references?_eq_some_iff.mpr ⟨hne, rfl⟩
        simp [hlist, below?, hrefs]

/-- A header is read off its lines, whatever is below them, and off no other lines. -/
theorem Entry.ofLines?_eq_some_iff {entry : Entry} :
    ofLines? lines = some (entry, below) ↔ lines = entry.lines ++ below := by
  constructor
  · intro h
    obtain ⟨_, hopening, h⟩ := Option.bind_eq_some_iff.mp h
    obtain ⟨⟨⟨name, _⟩, _⟩, hname, h⟩ := Option.bind_eq_some_iff.mp h
    obtain ⟨⟨⟨action, _⟩, _⟩, haction, h⟩ := Option.bind_eq_some_iff.mp h
    obtain ⟨⟨refs, _⟩, hrefs, h⟩ := Option.bind_eq_some_iff.mp h
    obtain ⟨_, hclosing, heq⟩ := Option.bind_eq_some_iff.mp h
    cases heq
    obtain ⟨hname, rfl⟩ := Option.filter_eq_some_iff.mp hname
    obtain ⟨rfl, rfl⟩ := list?_eq_some_iff.mp hrefs
    rw [below?_eq_some_iff.mp hopening, value?_eq_some_iff.mp hname,
      value?_eq_some_iff.mp haction, below?_eq_some_iff.mp hclosing]
    simp [Entry.lines]
  · rintro rfl
    have hvalue {label value : Text} {goesOn : Bool} {rest : List Text} :
        value? label (valueLine label value goesOn :: rest) = some ((value, goesOn), rest) :=
      value?_eq_some_iff.mpr rfl
    have hlist {rest : List Text} : list? (! entry.referencedTables.isEmpty)
        (listLines entry.referencedTables ++ rest) = some (entry.referencedTables, rest) :=
      list?_eq_some_iff.mpr ⟨rfl, rfl⟩
    simp [Entry.lines, ofLines?, below?, hvalue, hlist, Option.filter_some]

end

/-! ## Listings -/

/-- The lines of a listing: an empty one behind each header, and what is behind the last newline. -/
def listingLines (entries : List Entry) : List Text :=
  (entries.flatMap fun entry => entry.lines ++ [[]]) ++ [[]]

/-- What the first header of a listing says, and the lines below the empty one behind it. -/
def listed? (lines : List Text) : Option (Entry × List Text) := do
  let (entry, lines) ← Entry.ofLines? lines
  let lines ← below? [] lines
  return (entry, lines)

theorem listingLines_cons (entry : Entry) (entries : List Entry) :
    listingLines (entry :: entries) = entry.lines ++ [] :: listingLines entries := by
  simp [listingLines]

theorem listed?_eq_some_iff {lines below : List Text} {entry : Entry} :
    listed? lines = some (entry, below) ↔ lines = entry.lines ++ [] :: below := by
  constructor
  · intro h
    obtain ⟨⟨_, _⟩, hentry, h⟩ := Option.bind_eq_some_iff.mp h
    obtain ⟨_, hbelow, heq⟩ := Option.bind_eq_some_iff.mp h
    cases heq
    rw [Entry.ofLines?_eq_some_iff.mp hentry, below?_eq_some_iff.mp hbelow]
  · rintro rfl
    simp [listed?, Entry.ofLines?_eq_some_iff.mpr rfl, below?]

/-- What the headers of a listing say, from its lines. -/
def entriesOfLines? (lines : List Text) : Option (List Entry) :=
  if lines = [[]] then some []
  else
    match _ : listed? lines with
    | none => none
    | some (entry, below) => (entriesOfLines? below).map (entry :: ·)
termination_by lines.length
decreasing_by
  rename_i hlisted
  rw [listed?_eq_some_iff.mp hlisted, List.length_append, List.length_cons]
  omega

theorem entriesOfLines?_eq (lines : List Text) :
    entriesOfLines? lines =
      if lines = [[]] then some []
      else (listed? lines).bind fun (entry, below) =>
        (entriesOfLines? below).map (entry :: ·) := by
  rw [entriesOfLines?]
  split
  · rfl
  · split <;> simp [*]

theorem entriesOfLines?_eq_some_iff {lines : List Text} {entries : List Entry} :
    entriesOfLines? lines = some entries ↔ lines = listingLines entries := by
  induction entries generalizing lines with
  | nil =>
      rw [entriesOfLines?_eq]
      split
      · rename_i hend
        simp [hend, listingLines]
      · rename_i hmore
        simp [hmore, listingLines, Option.bind_eq_some_iff]
  | cons entry entries ih =>
      rw [entriesOfLines?_eq, listingLines_cons]
      split
      · rename_i hend
        simp [hend, Entry.lines, opening]
      · constructor
        · intro h
          obtain ⟨⟨_, _⟩, hlisted, h⟩ := Option.bind_eq_some_iff.mp h
          obtain ⟨_, hmore, heq⟩ := Option.map_eq_some_iff.mp h
          cases heq
          rw [listed?_eq_some_iff.mp hlisted, ih.mp hmore]
        · rintro rfl
          simp [listed?_eq_some_iff.mpr rfl, ih.mpr rfl]

theorem renderReferences_eq (statements : List Statement) :
    renderReferences statements = unlines (listingLines (statements.map entry)) := by
  induction statements with
  | nil => rfl
  | cons statement statements ih =>
      let rest := listingLines (statements.map entry)
      have hrest : rest ≠ [] := by simp [rest, listingLines]
      have hlines : unlines ((entry statement).lines ++ [] :: rest) =
          unlines (entry statement).lines ++ "\n" ++ "\n" ++ unlines rest := by
        rw [unlines_append (by simp [Entry.lines]) (by simp), unlines_cons_of_ne_nil [] hrest]
        simp
      rw [List.map_cons, listingLines_cons, hlines, ← header_eq, ← ih]
      simp [renderReferences]

/-! ## Newlines -/

/-- No name that a header gives has a newline. -/
def Entry.HasOneLineParts (entry : Entry) : Prop :=
  IsOneLine entry.name ∧ IsOneLine entry.action ∧ ∀ ref ∈ entry.referencedTables, IsOneLine ref

instance (entry : Entry) : Decidable entry.HasOneLineParts :=
  inferInstanceAs (Decidable (_ ∧ _ ∧ _))

theorem isOneLine_referenceLines {refs : List Text} :
    (∀ line ∈ referenceLines refs, IsOneLine line) ↔ ∀ ref ∈ refs, IsOneLine ref := by
  have hlabel : IsOneLine referenceLabel := by decide
  induction refs with
  | nil => simp [referenceLines]
  | cons ref refs ih =>
      simp only [referenceLines, List.forall_mem_cons, isOneLine_valueLine hlabel, ih]

theorem isOneLine_listLines {refs : List Text} :
    (∀ line ∈ listLines refs, IsOneLine line) ↔ ∀ ref ∈ refs, IsOneLine ref := by
  have hopening : IsOneLine listOpening := by decide
  have hclosing : IsOneLine listClosing := by decide
  rw [listLines]
  split
  · rename_i hnone
    simp [List.isEmpty_iff.mp hnone]
  · simp only [List.cons_append, List.forall_mem_cons, List.forall_mem_append,
      isOneLine_referenceLines, List.not_mem_nil, IsEmpty.forall_iff, implies_true, hopening,
      hclosing, true_and, and_true]

theorem Entry.isOneLine_lines {entry : Entry} :
    (∀ line ∈ entry.lines, IsOneLine line) ↔ entry.HasOneLineParts := by
  have hopening : IsOneLine opening := by decide
  have hclosing : IsOneLine closing := by decide
  have hname : IsOneLine nameLabel := by decide
  have haction : IsOneLine actionLabel := by decide
  simp only [Entry.lines, Entry.HasOneLineParts, List.forall_mem_append, List.forall_mem_cons,
    List.not_mem_nil, IsEmpty.forall_iff, implies_true, isOneLine_valueLine hname,
    isOneLine_valueLine haction, isOneLine_listLines, hopening, hclosing, true_and, and_true,
    and_assoc]

/-- The lines of a listing are lines of a text just if no name in it has a newline. -/
theorem isOneLine_listingLines {entries : List Entry} :
    (∀ line ∈ listingLines entries, IsOneLine line) ↔
      ∀ entry ∈ entries, entry.HasOneLineParts := by
  induction entries with
  | nil => simp [listingLines]
  | cons entry entries ih =>
      simp only [listingLines_cons, List.forall_mem_append, List.forall_mem_cons, isOneLine_nil,
        Entry.isOneLine_lines, ih, true_and]

/-! ## Reading texts -/

/-- What the headers of a listing say. -/
def entries? (text : Text) : Option (List Entry) := entriesOfLines? (lines text)

/-- In front of any text, such as the statement itself, a header is read, and that text is left. -/
theorem Entry.ofLines?_header {statement : Statement} (h : (entry statement).HasOneLineParts)
    (rest : Text) :
    ofLines? (Text.lines (header statement true ++ rest)) =
      some (entry statement, Text.lines rest) := by
  have hlines : Text.lines (header statement true ++ rest) =
      (entry statement).lines ++ Text.lines rest := by
    rw [header_eq, List.append_assoc]
    refine (lines_append_cons _ rest).trans (congrArg (· ++ Text.lines rest) ?_)
    exact lines_unlines (by simp [Entry.lines]) (Entry.isOneLine_lines.mpr h)
  exact ofLines?_eq_some_iff.mpr hlines

/-- The texts that are read are the listings of names without newlines. -/
theorem entries?_eq_some_iff {text : Text} {entries : List Entry} :
    entries? text = some entries ↔
      text = unlines (listingLines entries) ∧ ∀ entry ∈ entries, entry.HasOneLineParts := by
  rw [entries?, entriesOfLines?_eq_some_iff, ← isOneLine_listingLines]
  constructor
  · intro hlines
    rw [← hlines, unlines_lines]
    exact ⟨rfl, fun line => newline_notMem_of_mem_lines⟩
  · rintro ⟨rfl, hlines⟩
    exact lines_unlines (by simp [listingLines]) hlines

theorem entries?_renderReferences {statements : List Statement}
    (h : ∀ statement ∈ statements, (entry statement).HasOneLineParts) :
    entries? (renderReferences statements) = some (statements.map entry) := by
  rw [renderReferences_eq]
  exact entries?_eq_some_iff.mpr ⟨rfl, by simpa using h⟩

/-- Without newlines in names, a header tells the name, the action and the references of its
statement, and a listing of references tells those of all its statements, in their order and as
often as they occur, whatever quotes, commas and brackets are in them. -/
theorem renderReferences_eq_iff :
    (∀ first second : Statement,
      (entry first).HasOneLineParts → (entry second).HasOneLineParts →
      (header first true = header second true ↔ entry first = entry second)) ∧
    ∀ firsts seconds : List Statement,
      (∀ statement ∈ firsts, (entry statement).HasOneLineParts) →
      (∀ statement ∈ seconds, (entry statement).HasOneLineParts) →
      (renderReferences firsts = renderReferences seconds ↔
        firsts.map entry = seconds.map entry) := by
  constructor
  · intro first second hfirst hsecond
    constructor
    · intro hsame
      have hread := Entry.ofLines?_header hfirst []
      rw [hsame, Entry.ofLines?_header hsecond] at hread
      exact (Prod.mk.inj (Option.some.inj hread)).1.symm
    · intro hentry
      rw [header_eq, header_eq, hentry]
  · intro firsts seconds hfirsts hseconds
    constructor
    · intro hsame
      have hread := entries?_renderReferences hfirsts
      rw [hsame, entries?_renderReferences hseconds] at hread
      exact (Option.some.inj hread).symm
    · intro hentries
      rw [renderReferences_eq, renderReferences_eq, hentries]

/-- A table in a listing, with the tables that it refers to. -/
def listedTable (refs : List Text) : Statement :=
  Step.simpleStatement .createTable "child" .refTable [] false refs

/-- A reference with quotes and a comma in it is not taken for two. -/
theorem renderReferences_eq_iff_quoting :
    (entry (listedTable ["p1\x22, \x22p2"])).HasOneLineParts ∧
    (entry (listedTable ["p1", "p2"])).HasOneLineParts ∧
    header (listedTable ["p1\x22, \x22p2"]) true ≠ header (listedTable ["p1", "p2"]) true ∧
    renderReferences [listedTable ["p1", "p2"], listedTable ["p1\x22, \x22p2"]] ≠
      renderReferences [listedTable ["p1\x22, \x22p2"], listedTable ["p1", "p2"]] := by
  have hquoting : (entry (listedTable ["p1\x22, \x22p2"])).HasOneLineParts := by decide
  have hplain : (entry (listedTable ["p1", "p2"])).HasOneLineParts := by decide
  have hne : entry (listedTable ["p1\x22, \x22p2"]) ≠ entry (listedTable ["p1", "p2"]) := by
    simp [entry, listedTable, Step.simpleStatement]
  refine ⟨hquoting, hplain, mt (renderReferences_eq_iff.1 _ _ hquoting hplain).mp hne, ?_⟩
  refine mt (renderReferences_eq_iff.2 _ _ ?_ ?_).mp fun hsame => hne.symm (List.cons.inj hsame).1
  · simpa using ⟨hplain, hquoting⟩
  · simpa using ⟨hquoting, hplain⟩

/-- With a newline in it, it is. -/
example : header (listedTable ["p1\x22,\n-- \t\t\x22p2"]) true =
    header (listedTable ["p1", "p2"]) true := rfl

end SchemaMigration.Report
