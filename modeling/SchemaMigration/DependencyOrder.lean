import SchemaMigration.Text.Basic

/-!
# Dependency order

A depth-first walk over names lists each name behind the names that it depends on, as far
as the dependencies have no cycle.

## Main Definitions

* `Walk` - the names entered and the names finished so far
* `Walk.visit` - the walk behind one more name and what it leads to
* `dependencyOrder` - all names that the given ones lead to, dependencies first

## Design Notes

A name that was entered is never entered again, so nested visits have distinct names and a
walk over `count` names nests at most `count` deep; that number is the fuel.
-/

namespace SchemaMigration

/-- The names entered so far, and those finished, in the order in which they were. -/
structure Walk where
  entered : List Text
  finished : List Text
  deriving DecidableEq

namespace Walk

/-- The walk in front of the first name. -/
def start : Walk := ⟨[], []⟩

/-- The walk behind one more name: unless it was entered before, it is entered, the names it
leads to are visited in order, and then it is finished. -/
def visit (next : Text → List Text) : (fuel : Nat) → Walk → Text → Walk
  | 0, walk, _ => walk
  | fuel + 1, walk, name =>
    if name ∈ walk.entered then walk
    else
      let inner := (next name).foldl (visit next fuel) { walk with entered := name :: walk.entered }
      { inner with finished := inner.finished ++ [name] }

end Walk

/-- The given names and all that they lead to, each once and behind those it leads to; at
most `count` names can be reached. -/
def dependencyOrder (next : Text → List Text) (count : Nat) (names : List Text) : List Text :=
  (names.foldl (Walk.visit next (count + 1)) .start).finished

end SchemaMigration
