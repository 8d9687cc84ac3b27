import Mathlib.Data.List.Nodup
import SchemaMigration.Proofs.DependencyOrder

/-!
# Walks without a bound

A walk is a recursion that needs no bound: it ends for all dependencies among finitely many names,
cycles included, and it ends with the walk that the bounded visits give. Its course tells why no
name is finished twice.

## Main Definitions

* `Walk.Visits` - what visiting names in order makes of a walk
* `Walk.Visits.unique` - that is one walk at most
* `Walk.visits_foldl_visit` - and one at least, which visits with enough fuel find
* `nodup_dependencyOrder` - every name is listed once
* `dependencyOrder_congr` - what names outside lead to does not matter

## Design Notes

`Walk.Visits` is inductive, so a walk that it gives has been reached by finitely many nested calls.
It has no fuel: a visit that it tells of is a visit that comes to its end by itself.
-/

namespace SchemaMigration

namespace Walk

/-- What visiting names in order makes of a walk: a name that was entered is passed over, any other
is entered, then the names that it leads to are visited, and then it is finished. -/
inductive Visits (next : Text → List Text) : Walk → List Text → Walk → Prop
  | done (walk : Walk) : Visits next walk [] walk
  | passed {walk after : Walk} {name : Text} {names : List Text} (hentered : name ∈ walk.entered)
      (hrest : Visits next walk names after) : Visits next walk (name :: names) after
  | entered {walk inner after : Walk} {name : Text} {names : List Text}
      (hnew : name ∉ walk.entered)
      (hinner : Visits next { walk with entered := name :: walk.entered } (next name) inner)
      (hrest : Visits next { inner with finished := inner.finished ++ [name] } names after) :
      Visits next walk (name :: names) after

variable {next : Text → List Text}

/-- Visits end in one way only. -/
theorem Visits.unique {walk after other : Walk} {names : List Text}
    (h : Visits next walk names after) (hother : Visits next walk names other) : after = other := by
  induction h generalizing other with
  | done => cases hother with
    | done => rfl
  | passed hentered _ ih =>
      cases hother with
      | passed _ hrest => exact ih hrest
      | entered hnew => exact absurd hentered hnew
  | entered hnew _ _ ihInner ihRest =>
      cases hother with
      | passed hentered => exact absurd hentered hnew
      | entered _ hinner hrest =>
          obtain rfl := ihInner hinner
          exact ihRest hrest

theorem Visits.entered_subset {walk after : Walk} {names : List Text}
    (h : Visits next walk names after) : walk.entered ⊆ after.entered := by
  induction h with
  | done => exact List.Subset.refl _
  | passed _ _ ih => exact ih
  | entered _ _ _ ihInner ihRest =>
      exact fun name hname => ihRest (ihInner (List.mem_cons_of_mem _ hname))

/-- Visits with enough fuel for all that is not entered yet come to their end. -/
theorem visits_foldl_visit {all : List Text} (hnext : ∀ name ∈ all, next name ⊆ all) (fuel : Nat)
    {names : List Text} (hnames : names ⊆ all) {walk : Walk}
    (hfuel : (walk.unentered all).length < fuel) :
    Visits next walk names (names.foldl (visit next fuel) walk) := by
  induction fuel generalizing names walk with
  | zero => cases hfuel
  | succ fuel ihFuel =>
      induction names generalizing walk with
      | nil => exact .done walk
      | cons name names ih =>
          obtain ⟨hname, hrest⟩ := List.cons_subset.mp hnames
          rw [List.foldl_cons, visit]
          split
          · rename_i hentered
            exact .passed hentered (ih hrest hfuel)
          · rename_i hnew
            have hless := length_unentered_lt hname hnew
            have hinner : Visits next _ (next name) _ :=
              ihFuel (hnext name hname) (Nat.lt_of_lt_of_le hless (Nat.le_of_lt_succ hfuel))
            have hmore := @length_unentered_le all _ _ hinner.entered_subset
            exact .entered hnew hinner
              (ih hrest (Nat.lt_of_le_of_lt hmore (Nat.lt_trans hless hfuel)))

/-- Every finished name was entered, and is finished once. -/
structure IsOnce (walk : Walk) : Prop where
  nodup : walk.finished.Nodup
  finished_subset : walk.finished ⊆ walk.entered

/-- What visits keep: every name is finished once, and what is on the way is not finished. -/
theorem Visits.isOnce {walk after : Walk} {names : List Text} (h : Visits next walk names after)
    (hwalk : walk.IsOnce) : after.IsOnce ∧
      ∀ name ∈ walk.entered, name ∉ walk.finished → name ∉ after.finished := by
  induction h with
  | done => exact ⟨hwalk, fun _ _ hopen => hopen⟩
  | passed _ _ ih => exact ih hwalk
  | @entered walk inner after name names hnew hinner _ ihInner ihRest =>
      obtain ⟨honce, hopen⟩ := ihInner ⟨hwalk.nodup, fun other hother =>
        List.mem_cons_of_mem _ (hwalk.finished_subset hother)⟩
      have hname : name ∉ inner.finished :=
        hopen name (by simp) fun hfinished => hnew (hwalk.finished_subset hfinished)
      have hentered : name ∈ inner.entered := hinner.entered_subset (by simp)
      obtain ⟨hafter, hlater⟩ := ihRest {
        nodup := List.nodup_append'.mpr ⟨honce.nodup, List.nodup_singleton _, by simpa using hname⟩
        finished_subset := by
          simpa [List.subset_def, or_imp, forall_and] using ⟨honce.finished_subset, hentered⟩ }
      refine ⟨hafter, fun other hother hunfinished => ?_⟩
      refine hlater other (hinner.entered_subset (List.mem_cons_of_mem _ hother)) ?_
      rw [List.mem_append, List.mem_singleton, not_or]
      exact ⟨hopen other (List.mem_cons_of_mem _ hother) hunfinished,
        fun heq => hnew (heq ▸ hother)⟩

/-- Names of a kind that lead to names of the kind only are visited alike by all recursions that
agree on the kind. -/
theorem foldl_visit_congr {other : Text → List Text} {all : List Text}
    (hnext : ∀ name ∈ all, next name ⊆ all) (hsame : ∀ name ∈ all, other name = next name)
    (fuel : Nat) {names : List Text} (hnames : names ⊆ all) (walk : Walk) :
    names.foldl (visit other fuel) walk = names.foldl (visit next fuel) walk := by
  induction fuel generalizing names walk with
  | zero => rfl
  | succ fuel ih =>
      refine List.foldl_ext _ _ walk fun walk name hname => ?_
      have hmem := hnames hname
      rw [visit, visit, hsame name hmem, ih (hnext name hmem)]

end Walk

/-- What names outside lead to does not matter. -/
theorem dependencyOrder_congr {next other : Text → List Text} {all names : List Text}
    (hnext : ∀ name ∈ all, next name ⊆ all) (hsame : ∀ name ∈ all, other name = next name)
    (hnames : names ⊆ all) (count : Nat) :
    dependencyOrder other count names = dependencyOrder next count names := by
  rw [dependencyOrder, dependencyOrder, Walk.foldl_visit_congr hnext hsame _ hnames]

section Order

variable {next : Text → List Text} {count : Nat} {all names : List Text}
  (hnext : ∀ name ∈ all, next name ⊆ all) (hcount : all.length ≤ count) (hnames : names ⊆ all)

include hnext hcount hnames

/-- The whole walk comes to its end, and lists what it has finished by then. -/
theorem existsUnique_visits :
    (∃! walk, Walk.Visits next .start names walk) ∧
      ∀ walk, Walk.Visits next .start names walk →
        walk.finished = dependencyOrder next count names := by
  have hfuel : (Walk.start.unentered all).length < count + 1 :=
    Nat.lt_succ_of_le (Nat.le_trans (List.length_filter_le _ _) hcount)
  have hwalk := Walk.visits_foldl_visit hnext (count + 1) hnames hfuel
  refine ⟨⟨_, hwalk, fun _ hother => hother.unique hwalk⟩, fun walk hother => ?_⟩
  rw [hother.unique hwalk, dependencyOrder]

/-- Every name is listed once. -/
theorem nodup_dependencyOrder : (dependencyOrder next count names).Nodup := by
  obtain ⟨⟨walk, hwalk, -⟩, hfinished⟩ := existsUnique_visits hnext hcount hnames
  rw [← hfinished walk hwalk]
  exact (hwalk.isOnce ⟨List.nodup_nil, List.nil_subset _⟩).1.nodup

end Order

end SchemaMigration
