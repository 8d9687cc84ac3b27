import SchemaMigration.Proofs.Table.ListItems

/-!
# Text between parentheses

What stands between two parentheses that match may be taken out of them, or put between others: it
leaves no literal open, and each of its parentheses has its partner. The items of a list that has
stood between parentheses may be written as a list between parentheses again.

## Main Definitions

* `StaysOpen` - a text that does not close the parenthesis in front of it
* `IsEnclosed` - a text that may stand between parentheses
* `parenthesised?_eq_some` - what is read between parentheses, and behind them
* `IsEnclosed.partsText` - reading a list that was written between parentheses again
-/

namespace SchemaMigration

open Text

/-- No closing parenthesis of a text closes one that was opened in front of it. -/
def StaysOpen (s : ListState) : Text → Prop
  | [] => True
  | c :: text => ¬ (c = ')' ∧ s.2 = 0 ∧ s.1 = .outside) ∧ StaysOpen (s.next c) text

theorem staysOpen_append {s : ListState} {front back : Text} :
    StaysOpen s (front ++ back) ↔ StaysOpen s front ∧ StaysOpen (scan s front) back := by
  induction front generalizing s with
  | nil => simp [StaysOpen]
  | cons c front ih => simp [StaysOpen, ih, and_assoc]

/-- A text that may stand between parentheses. -/
structure IsEnclosed (text : Text) : Prop where
  staysOpen : StaysOpen .start text
  scan_eq : scan .start text = .start

/-! ## Reading -/

theorem parenthesisedFrom?_closing (text : Text) :
    parenthesisedFrom? .outside 0 (')' :: text) = some ([], text) := rfl

/-- Any other character is part of what stands between the parentheses. -/
theorem parenthesisedFrom?_cons {s : ListState} {c : Char}
    (h : ¬ (c = ')' ∧ s.2 = 0 ∧ s.1 = .outside)) (text : Text) :
    parenthesisedFrom? s.1 s.2 (c :: text) =
      (parenthesisedFrom? (s.next c).1 (s.next c).2 text).map fun (inner, rest) =>
        (c :: inner, rest) := by
  obtain ⟨literal, depth⟩ := s
  cases literal with
  | inside | escaped => rfl
  | outside =>
      by_cases hopen : c = '('
      · subst hopen
        simp [parenthesisedFrom?, ListState.next, Literal.next, depthAfter]
      by_cases hclose : c = ')'
      · subst hclose
        cases depth with
        | zero => exact absurd ⟨rfl, rfl, rfl⟩ h
        | succ depth => simp [parenthesisedFrom?, ListState.next, Literal.next, depthAfter]
      · simp [parenthesisedFrom?, ListState.next, depthAfter, hopen, hclose]

theorem parenthesisedFrom?_eq_some {s : ListState} {text inner rest : Text} :
    parenthesisedFrom? s.1 s.2 text = some (inner, rest) ↔
      text = inner ++ ')' :: rest ∧ StaysOpen s inner ∧ scan s inner = .start := by
  induction text generalizing s inner with
  | nil => simp [parenthesisedFrom?]
  | cons c text ih =>
      by_cases hc : c = ')' ∧ s.2 = 0 ∧ s.1 = .outside
      · obtain ⟨rfl, hdepth, hliteral⟩ := hc
        obtain rfl : s = .start := Prod.ext hliteral hdepth
        rw [ListState.start, parenthesisedFrom?_closing]
        constructor
        · intro h
          obtain ⟨rfl, rfl⟩ := Prod.mk.inj (Option.some.inj h)
          exact ⟨rfl, trivial, rfl⟩
        · rintro ⟨htext, hopen, -⟩
          cases inner with
          | nil => simpa using htext
          | cons d inner =>
              obtain ⟨rfl, -⟩ := List.cons.inj htext
              exact absurd ⟨rfl, rfl, rfl⟩ hopen.1
      · rw [parenthesisedFrom?_cons hc, Option.map_eq_some_iff]
        constructor
        · rintro ⟨⟨inner', rest'⟩, hread, heq⟩
          obtain ⟨rfl, rfl⟩ := Prod.mk.inj heq
          obtain ⟨rfl, hopen, hscan⟩ := ih.mp hread
          exact ⟨rfl, ⟨hc, hopen⟩, hscan⟩
        · rintro ⟨htext, hopen, hscan⟩
          cases inner with
          | nil =>
              obtain ⟨rfl, -⟩ := List.cons.inj htext
              obtain rfl : s = .start := hscan
              exact absurd ⟨rfl, rfl, rfl⟩ hc
          | cons d inner =>
              obtain ⟨rfl, rfl⟩ := List.cons.inj htext
              exact ⟨(inner, rest), ih.mpr ⟨rfl, hopen.2, hscan⟩, rfl⟩

/-- Reading what stands between parentheses. -/
theorem parenthesised?_eq_some {text inner rest : Text} :
    parenthesised? text = some (inner, rest) ↔ IsEnclosed inner ∧
      ∃ behind, text = '(' :: inner ++ ')' :: behind ∧ rest = trim behind := by
  constructor
  · intro h
    unfold parenthesised? at h
    split at h
    · rename_i text
      obtain ⟨⟨inner, behind⟩, hread, heq⟩ := Option.map_eq_some_iff.mp h
      obtain ⟨rfl, rfl⟩ := Prod.mk.inj heq
      have hread' : parenthesisedFrom? ListState.start.1 ListState.start.2 text
          = some (inner, behind) := hread
      obtain ⟨rfl, hopen, hscan⟩ := parenthesisedFrom?_eq_some.mp hread'
      exact ⟨⟨hopen, hscan⟩, behind, rfl, rfl⟩
    · cases h
  · rintro ⟨h, behind, rfl, rfl⟩
    have hread : parenthesisedFrom? ListState.start.1 ListState.start.2 (inner ++ ')' :: behind)
        = some (inner, behind) := parenthesisedFrom?_eq_some.mpr ⟨rfl, h.staysOpen, h.scan_eq⟩
    rw [List.cons_append, parenthesised?]
    exact congrArg (Option.map _) hread

/-! ## Lists -/

namespace IsEnclosed

theorem nil : IsEnclosed [] := ⟨trivial, rfl⟩

/-- What is left of an enclosed text without what is neutral around it is enclosed. -/
theorem of_isNeutral {part core front back : Text} (hpart : part = front ++ core ++ back)
    (hfront : IsNeutral front) (hback : IsNeutral back) (h : IsEnclosed part) :
    IsEnclosed core := by
  refine ⟨?_, scan_of_isNeutral hpart hfront hback h.scan_eq⟩
  have hopen := h.staysOpen
  rw [hpart, staysOpen_append, staysOpen_append, ListState.start, hfront.stays] at hopen
  exact hopen.1.2

protected theorem trim {text : Text} (h : IsEnclosed text) : IsEnclosed (trim text) := by
  obtain ⟨front, back, htext, hfront, hback⟩ := exists_trim_isNeutral text
  exact h.of_isNeutral htext hfront hback

/-- Enclosed texts with a comma between them are enclosed. -/
theorem append_comma {front back : Text} (hfront : IsEnclosed front) (hback : IsEnclosed back) :
    IsEnclosed (front ++ ',' :: back) := by
  have hcomma : ListState.start.next ',' = .start := rfl
  constructor
  · rw [staysOpen_append, hfront.scan_eq]
    exact ⟨hfront.staysOpen, by simp, hcomma ▸ hback.staysOpen⟩
  · rw [scan_append, hfront.scan_eq, scan_cons, hcomma, hback.scan_eq]

theorem join {items : List Text} (h : ∀ item ∈ items, IsEnclosed item) :
    IsEnclosed (join "," items) := by
  induction items with
  | nil => exact nil
  | cons item items ih =>
      obtain ⟨hitem, hitems⟩ := List.forall_mem_cons.mp h
      cases items with
      | nil => exact hitem
      | cons next items => simpa [Text.join] using hitem.append_comma (ih hitems)

end IsEnclosed

/-- The pieces of an enclosed text are enclosed; the first one is read from where the text is. -/
theorem isEnclosed_of_mem_listPieces {s : ListState} {text : Text} (hopen : StaysOpen s text)
    (hscan : scan s text = .start) : ∃ first rest, listPieces s.1 s.2 text = first :: rest ∧
      StaysOpen s first ∧ scan s first = .start ∧ ∀ piece ∈ rest, IsEnclosed piece := by
  induction text generalizing s with
  | nil => exact ⟨[], [], rfl, trivial, hscan, by simp⟩
  | cons c text ih =>
      rw [listPieces]
      split
      · rename_i hcomma
        obtain ⟨rfl, hdepth, hliteral⟩ := hcomma
        obtain rfl : s = .start := Prod.ext hliteral hdepth
        obtain ⟨first, rest, hpieces, hfirst, hend, hrest⟩ := ih hopen.2 hscan
        exact ⟨[], _, rfl, trivial, rfl, hpieces ▸ List.forall_mem_cons.mpr ⟨⟨hfirst, hend⟩, hrest⟩⟩
      · obtain ⟨first, rest, hpieces, hfirst, hend, hrest⟩ := ih hopen.2 hscan
        simp only [ListState.next] at hpieces
        rw [hpieces]
        exact ⟨c :: first, rest, rfl, ⟨hopen.1, hfirst⟩, hend, hrest⟩

/-- So are the items of an enclosed list. -/
theorem IsEnclosed.of_mem_listItems {text item : Text} (h : IsEnclosed text)
    (hitem : item ∈ listItems text) : IsEnclosed item := by
  obtain ⟨piece, hpiece, rfl⟩ := List.mem_map.mp (List.mem_filter.mp hitem).1
  obtain ⟨first, rest, hpieces, hfirst, hend, hrest⟩ :=
    isEnclosed_of_mem_listPieces h.staysOpen h.scan_eq
  rw [ListState.start] at hpieces
  rw [hpieces] at hpiece
  rcases List.mem_cons.mp hpiece with rfl | hpiece
  · exact IsEnclosed.trim ⟨hfirst, hend⟩
  · exact (hrest _ hpiece).trim

/-- A list that stood between parentheses is read again where it is written between parentheses. -/
theorem IsEnclosed.partsText {text : Text} (h : IsEnclosed text) (rest : Text) :
    ∃ inner, parenthesised? (partsText (listItems text) ++ rest) = some (inner, trim rest) ∧
      listItems inner = listItems text := by
  refine ⟨Text.join "," (listItems text), ?_, listItems_join_listItems text⟩
  refine parenthesised?_eq_some.mpr ⟨.join fun item => h.of_mem_listItems, rest, ?_, rfl⟩
  simp [SchemaMigration.partsText]

end SchemaMigration
