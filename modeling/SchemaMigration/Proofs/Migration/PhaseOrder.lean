import Mathlib.Order.Lattice
import Mathlib.Data.List.Basic
import SchemaMigration.Migration.Phase
import SchemaMigration.Proofs.KeyedList

/-!
# The order of phases

Phases are ordered as they are executed. Items arranged by phase are sorted in that order, so
wherever an execution stops, one phase parts what was done from what is left.

## Main Definitions

* `Phase.rank` - the place of a phase in the order of execution
* `Phase.mem_arrange`, `Phase.pairwise_arrange` - arranging loses nothing and sorts
* `Phase.filter_arrange`, `Phase.filter_phase_arrange` - and keeps the order within a phase
* `Phase.Parting`, `Phase.exists_parting` - a sorted list stopped anywhere is parted by a phase
-/

namespace SchemaMigration.Phase

/-- The place of a phase in the order of execution. -/
def rank (phase : Phase) : Nat := all.idxOf phase

/-- Every phase is executed. -/
theorem mem_all (phase : Phase) : phase ∈ all := by
  cases phase <;> decide

theorem rank_injective : Function.Injective rank := by
  intro p q h
  exact (List.idxOf_inj (mem_all p)).mp h

/-- Phases in order of execution. -/
instance : LinearOrder Phase := LinearOrder.lift' rank rank_injective

/-- The phases are listed in their order. -/
theorem pairwise_all : all.Pairwise (· < ·) := by decide

/-- Partitioning is set last. -/
theorem le_partitionTable (phase : Phase) : phase ≤ partitionTable := by
  cases phase <;> decide

section Arrange

variable {α β : Type} {phase : α → Phase}

/-- Arranging items neither loses nor adds one. -/
@[simp] theorem mem_arrange {items : List α} {item : α} :
    item ∈ arrange phase items ↔ item ∈ items := by
  simp only [arrange, List.mem_flatMap, List.mem_filter, decide_eq_true_eq]
  constructor
  · rintro ⟨-, -, h, -⟩
    exact h
  · intro h
    exact ⟨phase item, mem_all _, h, rfl⟩

/-- Arranged items are in order of phase. -/
theorem pairwise_arrange (items : List α) :
    (arrange phase items).Pairwise fun a b => phase a ≤ phase b := by
  rw [arrange, List.pairwise_flatMap]
  have same : ∀ p, ∀ a ∈ items.filter (phase · = p), phase a = p := by
    intro p a h
    simpa using (List.mem_filter.mp h).2
  constructor
  · intro p _
    refine List.pairwise_iff_forall_sublist.mpr ?_
    intro a b hab
    have ha := hab.subset (by simp : a ∈ [a, b])
    have hb := hab.subset (by simp : b ∈ [a, b])
    rw [same p a ha, same p b hb]
  · refine pairwise_all.imp ?_
    intro p q hpq a ha b hb
    rw [same p a ha, same q b hb]
    exact le_of_lt hpq

/-- Choosing items and arranging them may be exchanged. -/
theorem filterMap_arrange {phase' : β → Phase} {f : α → Option β}
    (h : ∀ a b, f a = some b → phase' b = phase a) (items : List α) :
    (arrange phase items).filterMap f = arrange phase' (items.filterMap f) := by
  have pieces : ∀ p, (items.filter (phase · = p)).filterMap f
      = (items.filterMap f).filter (phase' · = p) := by
    intro p
    induction items with
    | nil => rfl
    | cons a items ih =>
        cases hf : f a with
        | none => by_cases hp : phase a = p <;> simp [hf, hp, ih]
        | some b => by_cases hp : phase a = p <;> simp [hf, hp, h a b hf, ih]
  simp only [arrange, List.filterMap_flatMap, pieces]

/-- Renaming items and arranging them may be exchanged. -/
theorem map_arrange {phase' : β → Phase} {f : α → β} (h : ∀ a, phase' (f a) = phase a)
    (items : List α) : (arrange phase items).map f = arrange phase' (items.map f) := by
  rw [← List.filterMap_eq_map]
  refine filterMap_arrange ?_ items
  intro a b hb
  obtain rfl : f a = b := Option.some.inj hb
  exact h a

/-- Leaving items out and arranging them may be exchanged. -/
theorem filter_arrange (keep : α → Bool) (items : List α) :
    (arrange phase items).filter keep = arrange phase (items.filter keep) := by
  rw [← List.filterMap_eq_filter]
  refine filterMap_arrange ?_ items
  intro a b hb
  obtain ⟨rfl, -⟩ := Option.guard_eq_some_iff.mp hb
  rfl

/-- Items of one phase are as they were. -/
theorem arrange_eq_self {p : Phase} {items : List α} (h : ∀ item ∈ items, phase item = p) :
    arrange phase items = items := by
  have hnodup : (all.map id).Nodup := by
    rw [List.map_id]
    exact pairwise_all.imp ne_of_lt
  rw [arrange, flatMap_eq_of_mem hnodup (mem_all p), List.filter_eq_self]
  · intro item hitem
    simpa using h item hitem
  · intro other _ hother
    rw [List.filter_eq_nil_iff]
    intro item hitem
    simpa [h item hitem] using Ne.symm hother

/-- The items of a phase keep their order. -/
theorem filter_phase_arrange (p : Phase) (items : List α) :
    (arrange phase items).filter (phase · = p) = items.filter (phase · = p) := by
  rw [filter_arrange]
  refine arrange_eq_self (p := p) ?_
  intro item hitem
  simpa using (List.mem_filter.mp hitem).2

/-- A moment at which some items are done and the rest is not: the former are of the given phase
at most, the latter of at least that phase. -/
structure Parting (phase : α → Phase) (items : List α) (p : Phase) (done rest : List α) :
    Prop where
  whole : done ++ rest = items
  le_of_done : ∀ a ∈ done, phase a ≤ p
  le_of_rest : ∀ b ∈ rest, p ≤ phase b

/-- A list in order of phase that is stopped in front of an item is parted by the phase of that
item. -/
theorem parting_of_eq_append {items front back : List α} {item : α}
    (hsorted : items.Pairwise fun a b => phase a ≤ phase b)
    (hsplit : items = front ++ item :: back) :
    Parting phase items (phase item) front (item :: back) := by
  rw [hsplit, List.pairwise_append] at hsorted
  obtain ⟨-, hback, hcross⟩ := hsorted
  refine ⟨hsplit.symm, fun a ha => hcross a ha item (by simp), ?_⟩
  intro b hb
  rcases List.mem_cons.mp hb with rfl | hb
  · exact le_refl _
  · exact (List.pairwise_cons.mp hback).1 b hb

/-- Wherever a list in order of phase is stopped, some phase parts it. -/
theorem exists_parting {items : List α} (hsorted : items.Pairwise fun a b => phase a ≤ phase b)
    (k : Nat) : ∃ p, Parting phase items p (items.take k) (items.drop k) := by
  have hwhole := List.take_append_drop k items
  cases hdrop : items.drop k with
  | nil =>
      rw [hdrop] at hwhole
      exact ⟨partitionTable, hwhole, fun a _ => le_partitionTable _, by simp⟩
  | cons item back =>
      -- The first item that is not done gives the phase.
      rw [hdrop] at hwhole
      exact ⟨phase item, parting_of_eq_append hsorted hwhole.symm⟩

namespace Parting

variable {items done rest : List α} {p : Phase}

/-- What is done is one of the items. -/
theorem mem_of_done (h : Parting phase items p done rest) {a : α} (ha : a ∈ done) :
    a ∈ items := by
  rw [← h.whole]
  exact List.mem_append_left _ ha

/-- What belongs in front of the parting phase is done. -/
theorem mem_done (h : Parting phase items p done rest) {a : α} (ha : a ∈ items)
    (hp : phase a < p) : a ∈ done := by
  rw [← h.whole] at ha
  rcases List.mem_append.mp ha with hdone | hrest
  · exact hdone
  · exact absurd (h.le_of_rest a hrest) (not_le_of_gt hp)

/-- What is done is in order of phase if all items are. -/
theorem pairwise_done (h : Parting phase items p done rest)
    (hsorted : items.Pairwise fun a b => phase a ≤ phase b) :
    done.Pairwise fun a b => phase a ≤ phase b := by
  rw [← h.whole] at hsorted
  exact (List.pairwise_append.mp hsorted).1

/-- Items that are chosen are parted by the same phase. -/
theorem filterMap {phase' : β → Phase} {f : α → Option β}
    (h : Parting phase items p done rest) (hf : ∀ a b, f a = some b → phase' b = phase a) :
    Parting phase' (items.filterMap f) p (done.filterMap f) (rest.filterMap f) where
  whole := by rw [← h.whole, List.filterMap_append]
  le_of_done := by
    intro b hb
    obtain ⟨a, ha, hab⟩ := List.mem_filterMap.mp hb
    rw [hf a b hab]
    exact h.le_of_done a ha
  le_of_rest := by
    intro b hb
    obtain ⟨a, ha, hab⟩ := List.mem_filterMap.mp hb
    rw [hf a b hab]
    exact h.le_of_rest a ha

end Parting

end Arrange

end SchemaMigration.Phase
