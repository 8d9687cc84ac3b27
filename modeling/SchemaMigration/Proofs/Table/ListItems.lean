import SchemaMigration.Proofs.Table.KeyPart
import SchemaMigration.Proofs.Text.Recogniser

/-!
# Lists of columns

The items of a list may be written as a list again: reading it gives the same items back. The same
holds of the columns that its items name, so no two lists of columns are written alike.

## Main Definitions

* `scan` - where the scanner of lists stands behind a text
* `IsWhole` - a text without a comma that parts it
* `IsList` - pieces that a scanner may come to, one after the other
* `listItems_join_listItems` - items of a list, written with commas, are read as themselves
* `listItems_join` - columns of a list, written with commas, are read as themselves
* `join_injective` - columns of two lists that are written alike are the same

## Design Notes

A column may be named with quotes, commas and parentheses, which the scanner minds. It stands
behind a column where it stands behind the whole key part, since a length and a sort order have
no quotes and close what they open.
-/

namespace SchemaMigration

open Text

/-- Where the scanner of lists stands: with respect to literals, and how deep in parentheses. -/
abbrev ListState := Literal × Nat

/-- The state in front of a list and behind a comma. -/
def ListState.start : ListState := (.outside, 0)

/-- The state behind one more character. -/
def ListState.next (s : ListState) (c : Char) : ListState := (s.1.next c, depthAfter c s.2 s.1)

/-- The state behind a text. -/
def scan (s : ListState) (text : Text) : ListState := text.foldl ListState.next s

@[simp] theorem scan_nil (s : ListState) : scan s [] = s := rfl

@[simp] theorem scan_cons (s : ListState) (c : Char) (text : Text) :
    scan s (c :: text) = scan (s.next c) text := rfl

theorem scan_append (s : ListState) (front back : Text) :
    scan s (front ++ back) = scan (scan s front) back :=
  List.foldl_append

/-- No comma of a text parts it, if the scanner stands in a state in front of it. -/
def IsWhole (s : ListState) : Text → Prop
  | [] => True
  | c :: text => ¬ (c = ',' ∧ s.2 = 0 ∧ s.1 = .outside) ∧ IsWhole (s.next c) text

theorem isWhole_append {s : ListState} {front back : Text} :
    IsWhole s (front ++ back) ↔ IsWhole s front ∧ IsWhole (scan s front) back := by
  induction front generalizing s with
  | nil => simp [IsWhole]
  | cons c front ih => simp [IsWhole, ih, and_assoc]

/-- The pieces that the scanner comes to: each but the last ends where a comma parts the list. -/
inductive IsList : ListState → List Text → Prop
  | last {s : ListState} {piece : Text} (hwhole : IsWhole s piece) : IsList s [piece]
  | more {s : ListState} {piece : Text} {rest : List Text} (hwhole : IsWhole s piece)
      (hend : scan s piece = .start) (hrest : IsList .start rest) : IsList s (piece :: rest)

/-- Reading a list comes to such pieces. -/
theorem isList_listPieces (literal : Literal) (depth : Nat) (text : Text) :
    IsList (literal, depth) (listPieces literal depth text) := by
  induction text generalizing literal depth with
  | nil => exact .last trivial
  | cons c text ih =>
      rw [listPieces]
      split
      · rename_i hcomma
        obtain ⟨-, rfl, rfl⟩ := hcomma
        exact .more trivial rfl (ih _ _)
      · rename_i hcomma
        have hrest := ih (literal.next c) (depthAfter c depth literal)
        split
        · rename_i hnil
          rw [hnil] at hrest
          cases hrest
        · rename_i piece pieces hpieces
          rw [hpieces] at hrest
          cases hrest with
          | last hwhole => exact .last ⟨hcomma, hwhole⟩
          | more hwhole hend hrest => exact .more ⟨hcomma, hwhole⟩ hend hrest

/-- No character gets into the pieces that is not in the list. -/
theorem subset_of_mem_listPieces {literal : Literal} {depth : Nat} {text piece : Text}
    (h : piece ∈ listPieces literal depth text) : piece ⊆ text := by
  induction text generalizing literal depth piece with
  | nil =>
      obtain rfl : piece = [] := by simpa [listPieces] using h
      simp
  | cons c text ih =>
      rw [listPieces] at h
      split at h
      · rcases List.mem_cons.mp h with rfl | h
        · simp
        · exact List.subset_cons_of_subset c (ih h)
      · split at h
        · obtain rfl : piece = [c] := by simpa using h
          simp
        · rename_i first rest hpieces
          rcases List.mem_cons.mp h with rfl | h
          · exact List.cons_subset_cons c (ih (hpieces ▸ List.mem_cons_self))
          · exact List.subset_cons_of_subset c (ih (hpieces ▸ List.mem_cons_of_mem first h))

/-- A text that no comma parts is one piece. -/
theorem listPieces_of_isWhole {s : ListState} {piece : Text} (h : IsWhole s piece) :
    listPieces s.1 s.2 piece = [piece] := by
  induction piece generalizing s with
  | nil => rfl
  | cons c piece ih =>
      obtain ⟨hcomma, hrest⟩ := h
      rw [listPieces, if_neg hcomma]
      have hpiece := ih hrest
      simp only [ListState.next] at hpiece
      rw [hpiece]

/-- A comma parts a text where the scanner stands as at the start. -/
theorem listPieces_append {s : ListState} {piece : Text} (h : IsWhole s piece)
    (hend : scan s piece = .start) (rest : Text) :
    listPieces s.1 s.2 (piece ++ ',' :: rest) = piece :: listPieces .outside 0 rest := by
  induction piece generalizing s with
  | nil =>
      obtain rfl : s = .start := hend
      rw [List.nil_append, listPieces, if_pos ⟨rfl, rfl, rfl⟩]
  | cons c piece ih =>
      obtain ⟨hcomma, hrest⟩ := h
      rw [List.cons_append, listPieces, if_neg hcomma]
      have hpiece := ih hrest hend
      simp only [ListState.next] at hpiece
      rw [hpiece]

/-- Such pieces, written with commas, are read as themselves. -/
theorem listPieces_join {pieces : List Text} (h : IsList .start pieces) :
    listPieces .outside 0 (join "," pieces) = pieces := by
  -- Only the first piece need not stand behind a comma, so the state it is read in is kept open.
  generalize hs : ListState.start = s at h
  induction h with
  | last hwhole =>
      subst hs
      exact listPieces_of_isWhole hwhole
  | @more s piece rest hwhole hend hrest ih =>
      subst hs
      cases rest with
      | nil => cases hrest
      | cons next rest =>
          have hjoin : join "," (piece :: next :: rest)
              = piece ++ ',' :: join "," (next :: rest) := by
            simp [join]
          rw [hjoin]
          have hparted := listPieces_append hwhole hend (join "," (next :: rest))
          exact hparted.trans (congrArg _ (ih rfl))

/-! ## Texts behind a column -/

/-- Characters that neither open nor close a literal, nor hide what does. -/
def IsUnquoted (c : Char) : Prop := c ∉ ['\x27', '\x22', '\\']

instance (c : Char) : Decidable (IsUnquoted c) := inferInstanceAs (Decidable (c ∉ _))

/-- Characters that no scanner minds. -/
def IsPlain (c : Char) : Prop := IsUnquoted c ∧ c ≠ '(' ∧ c ≠ ')'

/-- Where a scanner can stand that started outside of literals. -/
def Literal.IsRegular : Literal → Prop
  | outside => True
  | inside quote | escaped quote => quote = '\x27' ∨ quote = '\x22'

theorem Literal.IsRegular.next {literal : Literal} (h : literal.IsRegular) (c : Char) :
    (literal.next c).IsRegular := by
  cases literal with
  | outside =>
      rw [Literal.next]
      split
      · rename_i hquote
        simpa [IsRegular] using hquote
      · trivial
  | inside quote =>
      rw [Literal.next]
      split
      · exact h
      · split
        · trivial
        · exact h
  | escaped quote => exact h

theorem isRegular_scan {s : ListState} (h : s.1.IsRegular) (text : Text) :
    (scan s text).1.IsRegular := by
  induction text generalizing s with
  | nil => exact h
  | cons c text ih => exact ih (h.next c)

/-- A text that leaves the scanner outside of literals where it is, and from inside a literal
does not lead out. -/
structure IsNeutral (text : Text) : Prop where
  stays : ∀ depth, scan (.outside, depth) text = (.outside, depth)
  confines : ∀ s : ListState, s.1.IsRegular → (scan s text).1 = .outside → s.1 = .outside

theorem isNeutral_nil : IsNeutral [] := ⟨fun _ => rfl, fun _ _ h => h⟩

theorem IsNeutral.append {front back : Text} (hfront : IsNeutral front) (hback : IsNeutral back) :
    IsNeutral (front ++ back) where
  stays := by
    intro depth
    rw [scan_append, hfront.stays, hback.stays]
  confines := by
    intro s hs hend
    rw [scan_append] at hend
    exact hfront.confines s hs (hback.confines _ (isRegular_scan hs front) hend)

/-- Without quotes there is no way out of a literal. -/
theorem confines_of_forall {text : Text} (h : ∀ c ∈ text, IsUnquoted c) {s : ListState}
    (hs : s.1.IsRegular) (hend : (scan s text).1 = .outside) : s.1 = .outside := by
  induction text generalizing s with
  | nil => exact hend
  | cons c text ih =>
      obtain ⟨hc, htext⟩ := List.forall_mem_cons.mp h
      simp only [IsUnquoted, List.mem_cons, List.not_mem_nil, or_false, not_or] at hc
      obtain ⟨hsingle, hdouble, hescape⟩ := hc
      have hnext : (s.1.next c) = .outside := ih htext (hs.next c) hend
      obtain ⟨literal, depth⟩ := s
      cases literal with
      | outside => rfl
      | inside quote =>
          -- Only the quote that opened this literal, or an escape, would lead out of it.
          have hquote : c ≠ quote := by
            rintro rfl
            rcases hs with rfl | rfl
            · exact hsingle rfl
            · exact hdouble rfl
          simp [Literal.next, hescape, hquote] at hnext
      | escaped quote => cases hnext

/-- Texts of plain characters are neutral. -/
theorem isNeutral_of_forall {text : Text} (h : ∀ c ∈ text, IsPlain c) : IsNeutral text where
  stays := by
    intro depth
    induction text with
    | nil => rfl
    | cons c text ih =>
        obtain ⟨⟨hc, hopen, hclose⟩, htext⟩ := List.forall_mem_cons.mp h
        simp only [IsUnquoted, List.mem_cons, List.not_mem_nil, or_false, not_or] at hc
        have hnext : ListState.next (.outside, depth) c = (.outside, depth) := by
          simp [ListState.next, Literal.next, depthAfter, hc, hopen, hclose]
        rw [scan_cons, hnext]
        exact ih htext
  confines := fun _ hs hend => confines_of_forall (fun c hc => (h c hc).1) hs hend

/-- So are they between parentheses. -/
theorem isNeutral_parenthesised {text : Text} (h : ∀ c ∈ text, IsPlain c) :
    IsNeutral ('(' :: text ++ [')']) where
  stays := by
    intro depth
    have hopen : ListState.next (.outside, depth) '(' = (.outside, depth + 1) := by
      simp [ListState.next, Literal.next, depthAfter]
    rw [List.cons_append, scan_cons, scan_append, hopen, (isNeutral_of_forall h).stays]
    simp [ListState.next, Literal.next, depthAfter]
  confines := by
    intro s hs hend
    refine confines_of_forall ?_ hs hend
    intro c hc
    rcases List.mem_append.mp hc with hc | hc
    · rcases List.mem_cons.mp hc with rfl | hc
      · decide
      · exact (h c hc).1
    · rw [List.mem_singleton.mp hc]
      decide

/-! ## Key parts -/

/-- The characters that scanners mind. -/
def minded : List Char := ['\x27', '\x22', '\\', '(', ')']

/-- A class of characters is plain if it has none of those that scanners mind. -/
theorem isPlain_of_class (inside : Char → Bool) {c : Char} (hc : inside c = true)
    (h : minded.any inside = false) : IsPlain c := by
  have hne : ∀ other ∈ minded, c ≠ other := by
    rintro other hother rfl
    rw [List.any_eq_false] at h
    exact h c hother hc
  simp only [minded, List.forall_mem_cons, List.not_mem_nil, false_implies, implies_true,
    and_true] at hne
  obtain ⟨hquote, hdouble, hslash, hopen, hclose⟩ := hne
  refine ⟨?_, hopen, hclose⟩
  simp only [IsUnquoted, List.mem_cons, List.not_mem_nil, or_false, not_or]
  exact ⟨hquote, hdouble, hslash⟩

/-- Blanks are plain. -/
theorem isPlain_of_isBlank {c : Char} (h : isBlank c = true) : IsPlain c :=
  isPlain_of_class isBlank h (by decide)

/-- The length of a key part is neutral. -/
theorem isNeutral_of_keyLength? {text rest : Text} (h : keyLength? text = some rest) :
    ∃ front, text = front ++ rest ∧ IsNeutral front := by
  simp only [keyLength?, Option.bind_eq_bind, Option.bind_eq_some_iff] at h
  obtain ⟨behindOpen, hopen, behindDigits, hdigits, hclose⟩ := h
  have htrim : trimLeft text = '(' :: behindOpen := eq_append_of_after? hopen
  have hrest : behindDigits = ')' :: rest := eq_append_of_after? hclose
  obtain ⟨digits, hbehind, hall⟩ : ∃ digits, behindOpen = digits ++ behindDigits ∧
      ∀ c ∈ digits, IsPlain c := by
    cases behindOpen with
    | nil => cases hdigits
    | cons c behind =>
        rw [digits?] at hdigits
        split at hdigits
        · rename_i hc
          refine ⟨c :: behind.takeWhile isDigit, ?_, ?_⟩
          · rw [← Option.some.inj hdigits, List.cons_append, List.takeWhile_append_dropWhile]
          · intro d hd
            refine isPlain_of_class isDigit ?_ (by decide)
            rcases List.mem_cons.mp hd with rfl | hd
            · exact hc
            · exact List.mem_takeWhile_imp hd
        · cases hdigits
  refine ⟨text.takeWhile isBlank ++ ('(' :: digits ++ [')']), ?_, ?_⟩
  · have hsplit : text = text.takeWhile isBlank ++ trimLeft text :=
      List.takeWhile_append_dropWhile.symm
    rw [htrim, hbehind, hrest] at hsplit
    simpa using hsplit
  · refine IsNeutral.append (isNeutral_of_forall ?_) (isNeutral_parenthesised hall)
    exact fun c hc => isPlain_of_isBlank (List.mem_takeWhile_imp hc)

/-- The sort order of a key part is neutral. -/
theorem isNeutral_of_keyOrder? {text rest : Text} (h : keyOrder? text = some rest) :
    ∃ front, text = front ++ rest ∧ IsNeutral front := by
  simp only [keyOrder?, Option.bind_eq_bind, Option.bind_eq_some_iff] at h
  obtain ⟨behind, hblanks, hword⟩ := h
  obtain ⟨front, rfl, hfront⟩ : ∃ front, text = front ++ behind ∧ ∀ c ∈ front, IsPlain c := by
    cases text with
    | nil => cases hblanks
    | cons c text =>
        rw [blanks?] at hblanks
        split at hblanks
        · rename_i hc
          refine ⟨c :: text.takeWhile isBlank, ?_, ?_⟩
          · rw [← Option.some.inj hblanks, List.cons_append]
            exact congrArg _ List.takeWhile_append_dropWhile.symm
          · intro d hd
            refine isPlain_of_isBlank ?_
            rcases List.mem_cons.mp hd with rfl | hd
            · exact hc
            · exact List.mem_takeWhile_imp hd
        · cases hblanks
  obtain ⟨keyword, hkeyword, hread⟩ := List.exists_of_findSome?_eq_some hword
  obtain ⟨word, rfl, hspelled⟩ := exists_of_keyword? hread
  refine ⟨front ++ word, by simp, ?_⟩
  refine IsNeutral.append (isNeutral_of_forall hfront) (isNeutral_of_forall ?_)
  intro c hc
  obtain ⟨letter, hletter, hspells⟩ := hspelled c hc
  have hnone : (["ASC".toList, "DESC".toList].all fun keyword => keyword.all fun letter =>
      ! minded.any (spells letter)) = true := by decide
  rw [List.all_eq_true] at hnone
  have hletters := List.all_eq_true.mp (hnone keyword hkeyword) letter hletter
  rw [Bool.not_eq_true'] at hletters
  exact isPlain_of_class (spells letter) hspells hletters

/-- A key part is the column that it names, between blanks and what is neutral. -/
theorem exists_of_columnName? {part name : Text} (h : columnName? part = some name) :
    ∃ front back, part = front ++ name ++ back ∧ IsNeutral front ∧ IsNeutral back := by
  simp only [columnName?, Option.bind_eq_bind, Option.bind_eq_some_iff] at h
  obtain ⟨⟨found, rest⟩, hfound, h⟩ := h
  obtain ⟨-, htrim⟩ := columnIdentifier?_eq_some hfound
  obtain ⟨behindLength, hlength, hneutral⟩ : ∃ front,
      rest = front ++ (keyLength? rest).getD rest ∧ IsNeutral front := by
    cases hread : keyLength? rest with
    | none => exact ⟨[], rfl, isNeutral_nil⟩
    | some behind => exact isNeutral_of_keyLength? hread
  generalize (keyLength? rest).getD rest = ordered at h hlength
  obtain ⟨behindOrder, horder, hneutral'⟩ : ∃ front,
      ordered = front ++ (keyOrder? ordered).getD ordered ∧ IsNeutral front := by
    cases hread : keyOrder? ordered with
    | none => exact ⟨[], rfl, isNeutral_nil⟩
    | some behind => exact isNeutral_of_keyOrder? hread
  split at h
  · rename_i hend
    rw [List.isEmpty_iff.mp hend, List.append_nil] at horder
    obtain rfl := Option.some.inj h
    obtain ⟨front, back, hpart, hfront, hback⟩ := exists_trim part
    refine ⟨front, rest ++ back, ?_, isNeutral_of_forall ?_, ?_⟩
    · rw [htrim] at hpart
      rw [hpart]
      simp
    · exact fun c hc => isPlain_of_isBlank (hfront c hc)
    · rw [hlength, horder]
      refine (hneutral.append hneutral').append (isNeutral_of_forall ?_)
      exact fun c hc => isPlain_of_isBlank (hback c hc)
  · cases h

/-! ## Pieces without what is neutral around them -/

section

variable {part core front back : Text} (hpart : part = front ++ core ++ back)
  (hfront : IsNeutral front)

include hpart hfront

/-- No comma of the core of a piece parts it if none parts the whole piece. -/
theorem isWhole_of_isNeutral (hwhole : IsWhole .start part) : IsWhole .start core := by
  subst hpart
  obtain ⟨hstart, -⟩ := isWhole_append.mp hwhole
  have hcore := (isWhole_append.mp hstart).2
  rwa [ListState.start, hfront.stays] at hcore

/-- The scanner stands as at the start behind the core of a piece if it does so behind the whole
piece. -/
theorem scan_of_isNeutral (hback : IsNeutral back) (hend : scan .start part = .start) :
    scan .start core = .start := by
  subst hpart
  rw [scan_append, scan_append, ListState.start, hfront.stays] at hend
  have hregular : (scan .start core).1.IsRegular :=
    isRegular_scan (s := .start) trivial core
  have houtside : (scan .start core).1 = .outside :=
    hback.confines _ hregular (congrArg Prod.fst hend)
  obtain ⟨depth, hscan⟩ : ∃ depth, scan .start core = (.outside, depth) :=
    ⟨_, Prod.ext houtside rfl⟩
  rw [ListState.start] at hscan
  rw [hscan, hback.stays] at hend
  rw [ListState.start, hscan, hend]

end

/-- The cores of the pieces of a list could be those of a list themselves. -/
theorem IsList.filterMap {read : Text → Option Text}
    (hread : ∀ part core, read part = some core →
      ∃ front back, part = front ++ core ++ back ∧ IsNeutral front ∧ IsNeutral back)
    {pieces : List Text} (h : IsList .start pieces) :
    pieces.filterMap read = [] ∨ IsList .start (pieces.filterMap read) := by
  generalize hs : ListState.start = s at h
  induction h with
  | @last s piece hwhole =>
      subst hs
      cases hcore : read piece with
      | none => exact Or.inl (by simp [hcore])
      | some core =>
          obtain ⟨front, back, hpart, hfront, -⟩ := hread _ _ hcore
          refine Or.inr ?_
          simp only [List.filterMap_cons, hcore, List.filterMap_nil]
          exact .last (isWhole_of_isNeutral hpart hfront hwhole)
  | @more s piece rest hwhole hend hrest ih =>
      subst hs
      cases hcore : read piece with
      | none =>
          simp only [List.filterMap_cons, hcore]
          exact ih rfl
      | some core =>
          obtain ⟨front, back, hpart, hfront, hback⟩ := hread _ _ hcore
          refine Or.inr ?_
          simp only [List.filterMap_cons, hcore]
          have hcoreWhole := isWhole_of_isNeutral hpart hfront hwhole
          rcases ih rfl with hnone | hcores
          · rw [hnone]
            exact .last hcoreWhole
          · exact .more hcoreWhole (scan_of_isNeutral hpart hfront hback hend) hcores

/-- What trimming takes off a text is neutral. -/
theorem exists_trim_isNeutral (text : Text) :
    ∃ front back, text = front ++ trim text ++ back ∧ IsNeutral front ∧ IsNeutral back := by
  obtain ⟨front, back, htext, hfront, hback⟩ := exists_trim text
  exact ⟨front, back, htext, isNeutral_of_forall fun c hc => isPlain_of_isBlank (hfront c hc),
    isNeutral_of_forall fun c hc => isPlain_of_isBlank (hback c hc)⟩

/-- An item of a list is trimmed and not empty. -/
theorem trim_of_mem_listItems {text item : Text} (h : item ∈ listItems text) :
    trim item = item ∧ item ≠ [] := by
  obtain ⟨hpiece, hne⟩ := List.mem_filter.mp h
  obtain ⟨piece, -, rfl⟩ := List.mem_map.mp hpiece
  exact ⟨trim_trim piece, by simpa using hne⟩

/-- Items that are trimmed and not empty are read as themselves. -/
theorem listItems_join_of_isList {items : List Text} (h : items = [] ∨ IsList .start items)
    (hitem : ∀ item ∈ items, trim item = item ∧ item ≠ []) :
    listItems (join "," items) = items := by
  rcases h with rfl | hlist
  · rfl
  · have hmap : items.map trim = items := by
      rw [List.map_congr_left fun item hmem => (hitem item hmem).1]
      simp
    rw [listItems, listPieces_join hlist, hmap, List.filter_eq_self]
    intro item hmem
    simpa using (hitem item hmem).2

/-- The items of a list, written with commas, are read as themselves. -/
theorem listItems_join_listItems (text : Text) :
    listItems (join "," (listItems text)) = listItems text := by
  refine listItems_join_of_isList ?_ fun item => trim_of_mem_listItems
  have hitems : listItems text = (listPieces .outside 0 text).filterMap fun piece =>
      (some (trim piece)).filter (! ·.isEmpty) := by
    rw [listItems, ← List.filterMap_eq_filter, List.filterMap_map]
    congr 1
  rw [hitems]
  refine (isList_listPieces .outside 0 text).filterMap fun part item hread => ?_
  obtain ⟨heq, -⟩ := Option.filter_eq_some_iff.mp hread
  obtain rfl := Option.some.inj heq
  exact exists_trim_isNeutral part

/-- Trimming changes no key part. -/
theorem columnName?_trim (part : Text) : columnName? (trim part) = columnName? part := by
  simp only [columnName?, trim_trim]

/-- Trimming the items of a list and leaving out empty ones changes no column. -/
theorem namedColumns_listItems (text : Text) :
    namedColumns (listItems text) = namedColumns (listPieces .outside 0 text) := by
  have hempty : columnName? [] = none := rfl
  rw [listItems]
  induction listPieces .outside 0 text with
  | nil => rfl
  | cons piece pieces ih =>
      simp only [namedColumns, List.map_cons, List.filterMap_cons] at ih ⊢
      cases htrim : trim piece with
      | nil =>
          have hnone : columnName? piece = none := by
            rw [← columnName?_trim, htrim, hempty]
          simp [hnone, ih]
      | cons c rest =>
          rw [← htrim, List.filter_cons_of_pos (by simp [htrim]), List.filterMap_cons,
            columnName?_trim, ih]

/-- The columns that a list names, written with commas, are read as themselves. -/
theorem listItems_join {text : Text} {columns : List Text}
    (h : columns = namedColumns (listItems text)) : listItems (join "," columns) = columns := by
  have hnamed : ∀ column ∈ columns, columnName? column = some column := by
    rw [h]
    exact fun column hcolumn => columnName?_of_mem_namedColumns hcolumn
  have hidentifier : ∀ column ∈ columns, trim column = column ∧ column ≠ [] := by
    intro column hcolumn
    have hitself := isIdentifier_of_columnName? (hnamed column hcolumn)
    refine ⟨trim_identifier hitself, ?_⟩
    cases hitself with
    | bare hne _ => exact hne
    | quoted => simp
  refine listItems_join_of_isList ?_ hidentifier
  rw [h, namedColumns_listItems]
  exact (isList_listPieces .outside 0 text).filterMap fun part name => exists_of_columnName?

/-- The columns of two lists that are written alike are the same. -/
theorem join_injective {text text' : Text} {columns columns' : List Text}
    (h : columns = namedColumns (listItems text)) (h' : columns' = namedColumns (listItems text'))
    (hjoin : join "," columns = join "," columns') : columns = columns' := by
  rw [← listItems_join h, ← listItems_join h', hjoin]

end SchemaMigration
