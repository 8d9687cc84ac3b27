import Mathlib.Data.List.Basic
import Mathlib.Logic.Relation
import SchemaMigration.DependencyOrder

/-!
# Names in dependency order

The walk over names lists every name that it is given, and no name but those and the ones that
they lead to, however the dependencies run. Each name stands behind those that it leads to, unless
they lead back to it.

## Main Definitions

* `Walk.Extends` - what a visit does to a walk: it finishes what it enters
* `Walk.visit_extends` - every visit does so, whatever its fuel
* `subset_dependencyOrder` - every given name is listed
* `forall_mem_dependencyOrder` - a listed name is a given one, or another one leads to it
* `Walk.IsOrdered` - finished names stand behind those that they lead to
* `mem_front_dependencyOrder` - so do all names that are listed
* `mem_dependencyOrder` - the names that are listed are those to which given ones lead

## Design Notes

While a name is visited, the names that are entered and not finished are those on the way to it:
each of them leads to it. So a name that is met again before it is finished closes a cycle. The
fuel is enough since each visit enters a name that was not entered before.
-/

namespace SchemaMigration

namespace Walk

/-- A walk goes on: nothing that was finished is lost, and what was entered on the way is
finished. -/
structure Extends (before after : Walk) : Prop where
  finished_subset : before.finished ⊆ after.finished
  entered : ∀ name ∈ after.entered, name ∈ before.entered ∨ name ∈ after.finished

theorem Extends.refl (walk : Walk) : walk.Extends walk :=
  ⟨List.Subset.refl _, fun _ h => Or.inl h⟩

theorem Extends.trans {a b c : Walk} (hab : a.Extends b) (hbc : b.Extends c) : a.Extends c where
  finished_subset := List.Subset.trans hab.finished_subset hbc.finished_subset
  entered := by
    intro name hname
    rcases hbc.entered name hname with hb | hc
    · exact (hab.entered name hb).imp id fun hfinished => hbc.finished_subset hfinished
    · exact Or.inr hc

/-- What every single visit does, several visits do. -/
theorem extends_foldl {visit : Walk → Text → Walk}
    (hvisit : ∀ (walk : Walk) name, walk.Extends (visit walk name)) (names : List Text)
    (walk : Walk) :
    walk.Extends (names.foldl visit walk) := by
  induction names generalizing walk with
  | nil => exact Extends.refl walk
  | cons name names ih => exact (hvisit walk name).trans (ih (visit walk name))

/-- A visit finishes what it enters. -/
theorem visit_extends (next : Text → List Text) (fuel : Nat) (walk : Walk) (name : Text) :
    walk.Extends (visit next fuel walk name) := by
  induction fuel generalizing walk name with
  | zero => exact Extends.refl walk
  | succ fuel ih =>
      rw [visit]
      split
      · exact Extends.refl walk
      · have hinner := extends_foldl ih (next name) { walk with entered := name :: walk.entered }
        constructor
        · exact fun x hx => List.mem_append_left _ (hinner.finished_subset hx)
        · intro x hx
          rcases hinner.entered x hx with hx | hx
          · rcases List.mem_cons.mp hx with rfl | hx
            · exact Or.inr (by simp)
            · exact Or.inl hx
          · exact Or.inr (List.mem_append_left _ hx)

/-- All names that were entered are finished. -/
def IsSettled (walk : Walk) : Prop := walk.entered ⊆ walk.finished

/-- Between two visits from outside, all names that were entered are finished. -/
theorem IsSettled.extends {before after : Walk} (h : before.IsSettled)
    (hextends : before.Extends after) : after.IsSettled := by
  intro name hname
  rcases hextends.entered name hname with hbefore | hafter
  · exact hextends.finished_subset (h hbefore)
  · exact hafter

/-- A visit from outside finishes the name that is visited. -/
theorem mem_finished_visit {walk : Walk} (h : walk.IsSettled) (next : Text → List Text)
    (fuel : Nat) (name : Text) : name ∈ (visit next (fuel + 1) walk name).finished := by
  rw [visit]
  split
  · rename_i hentered
    exact h hentered
  · simp

/-- Visits from outside finish all names that are visited. -/
theorem subset_finished_foldl {walk : Walk} (h : walk.IsSettled) (next : Text → List Text)
    (fuel : Nat) (names : List Text) :
    names ⊆ (names.foldl (visit next (fuel + 1)) walk).finished := by
  induction names generalizing walk with
  | nil => exact List.nil_subset _
  | cons name names ih =>
      have hvisit := visit_extends next (fuel + 1) walk name
      have hrest := extends_foldl (visit_extends next (fuel + 1)) names
        (visit next (fuel + 1) walk name)
      refine List.cons_subset.mpr ⟨?_, ih (h.extends hvisit)⟩
      exact hrest.finished_subset (mem_finished_visit h next fuel name)

/-- What every single visit keeps true of finished names, several visits keep. -/
theorem forall_finished_foldl {visit : Walk → Text → Walk} {P : Text → Prop}
    (hvisit : ∀ (walk : Walk) name, (∀ x ∈ walk.finished, P x) → P name →
      ∀ x ∈ (visit walk name).finished, P x)
    {names : List Text} {walk : Walk} (hnames : ∀ name ∈ names, P name)
    (hwalk : ∀ x ∈ walk.finished, P x) : ∀ x ∈ (names.foldl visit walk).finished, P x := by
  induction names generalizing walk with
  | nil => exact hwalk
  | cons first rest ih =>
      obtain ⟨hfirst, hrest⟩ := List.forall_mem_cons.mp hnames
      exact ih hrest (hvisit walk first hwalk hfirst)

/-- What holds of the name that is visited, and with a name of all that it leads to, stays true of
finished names. -/
theorem forall_finished_visit {next : Text → List Text} {P : Text → Prop}
    (hnext : ∀ name, P name → ∀ other ∈ next name, P other) (fuel : Nat) (walk : Walk)
    (name : Text) (hwalk : ∀ x ∈ walk.finished, P x) (hname : P name) :
    ∀ x ∈ (visit next fuel walk name).finished, P x := by
  induction fuel generalizing walk name with
  | zero => exact hwalk
  | succ fuel ih =>
      rw [visit]
      split
      · exact hwalk
      · intro x hx
        rcases List.mem_append.mp hx with hx | hx
        · refine forall_finished_foldl ih (hnext name hname) ?_ x hx
          exact hwalk
        · rw [List.mem_singleton.mp hx]
          exact hname

/-! ### The order of finished names -/

section Order

variable {next : Text → List Text}

/-- A name leads to those that come next. -/
def Leads (next : Text → List Text) (name other : Text) : Prop := other ∈ next name

/-- Finished names stand behind those that they lead to, unless these lead back. -/
structure IsOrdered (next : Text → List Text) (walk : Walk) : Prop where
  finished_subset : walk.finished ⊆ walk.entered
  next_entered : ∀ name ∈ walk.finished, next name ⊆ walk.entered
  mem_front : ∀ front name back, walk.finished = front ++ name :: back →
    ∀ other ∈ next name, other ∈ front ∨ Relation.ReflTransGen (Leads next) other name

/-- Names that are entered and not finished lead to a name. -/
def IsOnWay (next : Text → List Text) (walk : Walk) (name : Text) : Prop :=
  ∀ other ∈ walk.entered, other ∈ walk.finished ∨ Relation.ReflTransGen (Leads next) other name

/-- What is on the way stays so while other names are visited. -/
theorem IsOnWay.extends {before after : Walk} {name : Text} (h : before.IsOnWay next name)
    (hextends : before.Extends after) : after.IsOnWay next name := by
  intro other hother
  rcases hextends.entered other hother with hbefore | hafter
  · exact (h other hbefore).imp (fun hfinished => hextends.finished_subset hfinished) id
  · exact Or.inl hafter

/-- A name may be finished once all that it leads to is finished or on the way to it. -/
theorem IsOrdered.finish {walk : Walk} (h : walk.IsOrdered next) {name : Text}
    (hname : name ∈ walk.entered) (hentered : next name ⊆ walk.entered)
    (hnext : ∀ other ∈ next name,
      other ∈ walk.finished ∨ Relation.ReflTransGen (Leads next) other name) :
    IsOrdered next { walk with finished := walk.finished ++ [name] } where
  finished_subset := by
    intro other hother
    rcases List.mem_append.mp hother with hother | hother
    · exact h.finished_subset hother
    · rwa [List.mem_singleton.mp hother]
  next_entered := by
    intro other hother
    rcases List.mem_append.mp hother with hother | hother
    · exact h.next_entered other hother
    · rwa [List.mem_singleton.mp hother]
  mem_front := by
    intro front last back hsplit other hother
    rcases List.eq_nil_or_concat back with rfl | ⟨back, final, rfl⟩
    · obtain ⟨rfl, hlast⟩ := List.append_inj' hsplit rfl
      obtain rfl := List.singleton_inj.mp hlast
      exact hnext other hother
    · have hsplit' : walk.finished ++ [name] = (front ++ last :: back) ++ [final] := by
        simpa using hsplit
      exact h.mem_front front last back (List.append_inj' hsplit' rfl).1 other hother

/-- What visits of some names do to a walk in order. -/
structure Covers (next : Text → List Text) (before after : Walk) (names : List Text) : Prop where
  isOrdered : after.IsOrdered next
  entered_subset : before.entered ⊆ after.entered
  subset_entered : names ⊆ after.entered

/-- The names that are not entered, of all that there are. -/
def unentered (all : List Text) (walk : Walk) : List Text := all.filter (· ∉ walk.entered)

/-- There are no more of them when others are entered. -/
theorem length_unentered_le {all : List Text} {before after : Walk}
    (h : before.entered ⊆ after.entered) :
    (after.unentered all).length ≤ (before.unentered all).length := by
  refine (List.monotone_filter_right all ?_).length_le
  intro name hname
  rw [decide_eq_true_eq] at hname ⊢
  exact fun hbefore => hname (h hbefore)

/-- And fewer when one of them is. -/
theorem length_unentered_lt {all : List Text} {walk : Walk} {name : Text} (hname : name ∈ all)
    (hnew : name ∉ walk.entered) :
    (unentered all { walk with entered := name :: walk.entered }).length
      < (walk.unentered all).length := by
  have hfilter : unentered all { walk with entered := name :: walk.entered }
      = (walk.unentered all).filter (· ≠ name) := by
    rw [unentered, unentered, List.filter_filter]
    refine List.filter_congr ?_
    intro other _
    simp
  rw [hfilter]
  refine List.length_filter_lt_length_iff_exists.mpr ⟨name, ?_, by simp⟩
  exact List.mem_filter.mpr ⟨hname, by simpa using hnew⟩

variable {all : List Text}

/-- Visits that keep a walk in order do so one after the other. -/
theorem covers_foldl {fuel : Nat}
    (hvisit : ∀ (walk : Walk) name, name ∈ all → (walk.unentered all).length < fuel →
      walk.IsOrdered next → walk.IsOnWay next name →
        walk.Covers next (visit next fuel walk name) [name])
    {names : List Text} (hnames : names ⊆ all) {walk : Walk}
    (hfuel : (walk.unentered all).length < fuel) (h : walk.IsOrdered next)
    (hway : ∀ name ∈ names, walk.IsOnWay next name) :
    walk.Covers next (names.foldl (visit next fuel) walk) names := by
  induction names generalizing walk with
  | nil => exact ⟨h, List.Subset.refl _, List.nil_subset _⟩
  | cons name names ih =>
      obtain ⟨hname, hrest⟩ := List.cons_subset.mp hnames
      obtain ⟨hfirst, hway⟩ := List.forall_mem_cons.mp hway
      have hcovers := hvisit walk name hname hfuel h hfirst
      have hlater := ih hrest
        (Nat.lt_of_le_of_lt (length_unentered_le hcovers.entered_subset) hfuel) hcovers.isOrdered
        fun other hother => (hway other hother).extends (visit_extends next fuel walk name)
      exact {
        isOrdered := hlater.isOrdered
        entered_subset := List.Subset.trans hcovers.entered_subset hlater.entered_subset
        subset_entered := List.cons_subset.mpr
          ⟨hlater.entered_subset (hcovers.subset_entered (by simp)), hlater.subset_entered⟩ }

/-- A visit keeps a walk in order if its fuel is enough for all that is not entered yet. -/
theorem covers_visit (hnext : ∀ name ∈ all, next name ⊆ all) (fuel : Nat) (walk : Walk)
    (name : Text) (hname : name ∈ all) (hfuel : (walk.unentered all).length < fuel)
    (h : walk.IsOrdered next) (hway : walk.IsOnWay next name) :
    walk.Covers next (visit next fuel walk name) [name] := by
  induction fuel generalizing walk name with
  | zero => cases hfuel
  | succ fuel ih =>
      rw [visit]
      split
      · rename_i hentered
        exact ⟨h, List.Subset.refl _, by simpa using hentered⟩
      · rename_i hnew
        let entering : Walk := { walk with entered := name :: walk.entered }
        have hordered : entering.IsOrdered next :=
          { h with
            finished_subset := fun x hx => List.mem_cons_of_mem _ (h.finished_subset hx)
            next_entered := fun x hx y hy => List.mem_cons_of_mem _ (h.next_entered x hx hy) }
        -- What the name leads to is reached by way of it.
        have hreached : entering.IsOnWay next name := by
          intro other hother
          rcases List.mem_cons.mp hother with rfl | hother
          · exact Or.inr .refl
          · exact hway other hother
        have hless : (entering.unentered all).length < fuel :=
          Nat.lt_of_lt_of_le (length_unentered_lt hname hnew) (Nat.le_of_lt_succ hfuel)
        have hinner := covers_foldl ih (hnext name hname) hless hordered
          fun other hother x hx => (hreached x hx).imp id fun hleads => hleads.tail hother
        have hextends := extends_foldl (visit_extends next fuel) (next name) entering
        refine ⟨hinner.isOrdered.finish (hinner.entered_subset (by simp [entering]))
          hinner.subset_entered ?_, ?_, ?_⟩
        · intro other hother
          exact hreached.extends hextends other (hinner.subset_entered hother)
        · exact fun x hx => hinner.entered_subset (List.mem_cons_of_mem _ hx)
        · simpa using hinner.entered_subset (by simp [entering])

end Order

end Walk

/-- Every given name is listed. -/
theorem subset_dependencyOrder (next : Text → List Text) (count : Nat) (names : List Text) :
    names ⊆ dependencyOrder next count names := by
  refine Walk.subset_finished_foldl ?_ next count names
  exact List.nil_subset _

/-- What holds of all given names, and with a name of all that it leads to, holds of all that are
listed. -/
theorem forall_mem_dependencyOrder {next : Text → List Text} {P : Text → Prop} {count : Nat}
    {names : List Text} (hnames : ∀ name ∈ names, P name)
    (hnext : ∀ name, P name → ∀ other ∈ next name, P other) :
    ∀ name ∈ dependencyOrder next count names, P name := by
  refine Walk.forall_finished_foldl (Walk.forall_finished_visit hnext (count + 1)) hnames ?_
  simp [Walk.start]

section Order

variable {next : Text → List Text} {count : Nat} {all names : List Text}
  (hnext : ∀ name ∈ all, next name ⊆ all) (hcount : all.length ≤ count) (hnames : names ⊆ all)

include hnext hcount hnames

/-- The whole walk is in order. -/
theorem isOrdered_foldl_visit :
    Walk.IsOrdered next (names.foldl (Walk.visit next (count + 1)) .start) := by
  have hstart : Walk.start.IsOrdered next := ⟨List.nil_subset _, by simp [Walk.start],
    by simp [Walk.start]⟩
  have hfuel : (Walk.start.unentered all).length < count + 1 :=
    Nat.lt_succ_of_le (Nat.le_trans (List.length_filter_le _ _) hcount)
  exact (Walk.covers_foldl (Walk.covers_visit hnext (count + 1)) hnames hfuel hstart
    fun _ _ _ hother => by cases hother).isOrdered

/-- A name is listed behind those that it leads to, unless these lead back to it. -/
theorem mem_front_dependencyOrder {front back : List Text} {name : Text}
    (hsplit : dependencyOrder next count names = front ++ name :: back) :
    ∀ other ∈ next name, other ∈ front ∨ Relation.ReflTransGen (Walk.Leads next) other name :=
  (isOrdered_foldl_visit hnext hcount hnames).mem_front front name back hsplit

/-- The names that are listed are those to which given ones lead, in any number of steps. -/
theorem mem_dependencyOrder {name : Text} : name ∈ dependencyOrder next count names ↔
    ∃ first ∈ names, Relation.ReflTransGen (Walk.Leads next) first name := by
  constructor
  · intro hname
    refine forall_mem_dependencyOrder
      (P := fun name => ∃ first ∈ names, Relation.ReflTransGen (Walk.Leads next) first name)
      (fun first hfirst => ⟨first, hfirst, .refl⟩) ?_ name hname
    rintro name ⟨first, hfirst, hpath⟩ other hother
    exact ⟨first, hfirst, hpath.tail hother⟩
  · rintro ⟨first, hfirst, hpath⟩
    have hsettled : Walk.IsSettled (names.foldl (Walk.visit next (count + 1)) .start) := by
      refine Walk.IsSettled.extends ?_ (Walk.extends_foldl (Walk.visit_extends next (count + 1))
        names Walk.start)
      exact List.nil_subset _
    induction hpath with
    | refl => exact subset_dependencyOrder next count names hfirst
    | tail _ hstep ih =>
        exact hsettled ((isOrdered_foldl_visit hnext hcount hnames).next_entered _ ih hstep)

end Order

end SchemaMigration
