import SchemaMigration.Proofs.Text.Piece
import SchemaMigration.Text.Search

/-!
# Endings

A text is parted in front of the first ending that a reader accepts. That is where it is parted
again whenever the same beginning stands in front of an ending and no longer one is accepted.

## Main Definitions

* `splitAtSuffix?_eq_some` - the shortest beginning whose rest is accepted
* `trim_of_splitAtSuffix?` - it has no blanks at its end where they would not matter
-/

namespace SchemaMigration.Text

/-- The rest behind the shortest beginning is accepted, and no longer one is. -/
theorem splitAtSuffix?_eq_some {α : Type} {read : Text → Option α} {text head : Text} {a : α} :
    splitAtSuffix? read text = some (head, a) ↔ ∃ rest, text = head ++ rest ∧ read rest = some a ∧
      ∀ inside, inside ≠ [] → inside <:+ head → read (inside ++ rest) = none := by
  induction text generalizing head with
  | nil =>
      rw [splitAtSuffix?, Option.map_eq_some_iff]
      constructor
      · rintro ⟨b, hread, heq⟩
        obtain ⟨rfl, rfl⟩ := Prod.mk.inj heq
        exact ⟨[], rfl, hread, fun inside hne hinside => absurd (List.suffix_nil.mp hinside) hne⟩
      · rintro ⟨rest, htext, hread, -⟩
        obtain ⟨rfl, rfl⟩ := List.append_eq_nil_iff.mp htext.symm
        exact ⟨a, hread, rfl⟩
  | cons c text ih =>
      rw [splitAtSuffix?]
      cases hwhole : read (c :: text) with
      | some b =>
          constructor
          · intro h
            obtain ⟨rfl, rfl⟩ := Prod.mk.inj (Option.some.inj h)
            exact ⟨c :: text, rfl, hwhole,
              fun inside hne hinside => absurd (List.suffix_nil.mp hinside) hne⟩
          · rintro ⟨rest, htext, hread, hshortest⟩
            cases head with
            | nil =>
                rw [List.nil_append] at htext
                rw [← htext, hwhole] at hread
                rw [Option.some.inj hread]
            | cons d head =>
                have hnone := hshortest (d :: head) (by simp) List.suffix_rfl
                rw [← htext, hwhole] at hnone
                cases hnone
      | none =>
          simp only [Option.map_eq_some_iff, Prod.mk.injEq]
          constructor
          · rintro ⟨⟨front, b⟩, hsplit, rfl, rfl⟩
            obtain ⟨rest, rfl, hread, hshortest⟩ := ih.mp hsplit
            refine ⟨rest, rfl, hread, fun inside hne hinside => ?_⟩
            rcases List.suffix_cons_iff.mp hinside with rfl | hinside
            · exact hwhole
            · exact hshortest inside hne hinside
          · rintro ⟨rest, htext, hread, hshortest⟩
            cases head with
            | nil =>
                rw [List.nil_append] at htext
                rw [← htext, hwhole] at hread
                cases hread
            | cons d head =>
                obtain ⟨rfl, rfl⟩ := List.cons.inj htext
                refine ⟨(head, a), ih.mpr ⟨rest, rfl, hread, fun inside hne hinside => ?_⟩,
                  rfl, rfl⟩
                exact hshortest inside hne (hinside.trans (List.suffix_cons c head))

/-- Where blanks in front of an ending do not matter, the beginning has none at its end. -/
theorem trim_of_splitAtSuffix? {α : Type} {read : Text → Option α} {text head : Text} {a : α}
    (hread : ∀ c rest, isBlank c = true → (read rest).isSome → (read (c :: rest)).isSome)
    (htext : ∀ c ∈ text.head?, isBlank c = false)
    (h : splitAtSuffix? read text = some (head, a)) : trim head = head := by
  obtain ⟨rest, rfl, haccepted, hshortest⟩ := splitAtSuffix?_eq_some.mp h
  refine trim_eq_self (fun c hc => htext c ?_) fun c hc => ?_
  · rw [List.head?_append, Option.mem_def.mp hc]
    rfl
  · rw [Bool.eq_false_iff]
    intro hblank
    obtain ⟨front, hfront⟩ := List.getLast?_eq_some_iff.mp hc
    have hnone := hshortest [c] (by simp) ⟨front, hfront.symm⟩
    have hsome := hread c rest hblank (by simp [haccepted])
    rw [← List.singleton_append, hnone] at hsome
    cases hsome

end SchemaMigration.Text
