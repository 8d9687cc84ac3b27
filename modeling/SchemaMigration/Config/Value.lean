import SchemaMigration.Config.Octets
import SchemaMigration.Config.Quantity
import SchemaMigration.Config.Timestamp
import SchemaMigration.Text.Quoted

/-!
# Configuration values

What a configuration says is a value: nothing, a truth value, a number, a date, a text, some
octets, or a collection of values.

## Main Definitions

* `Value` - the values of configurations
* `Collection`, `Store` - what collections hold
* `Store.describe?`, `Store.asText?` - a value as messages show it, and as a text setting
* `Store.isTrue` - whether a value switches something on
* `Store.members?` - the values that one value stands for where several are asked for
* `insertEntry`, `entryNamed?` - the entries of mappings, by their keys

## Design Notes

An alias within a collection may stand for that very collection, so a collection may be part
of itself. Therefore a collection is a cell of a store, and a value only names the cell. A
collection within itself is abbreviated where it is shown.

A switch is on for every value but the empty ones, so the text `no` switches it on.
-/

namespace SchemaMigration

open Text

/-- A value of a configuration. -/
inductive Value
  | null
  | bool (value : Bool)
  | int (value : Int)
  | fraction (value : Quantity)
  | timestamp (stamp : Timestamp)
  | text (value : Text)
  | octets (octets : List Nat)
  /-- The collection in a cell of the store. -/
  | collection (cell : Nat)
  deriving DecidableEq

/-- What a collection holds. -/
inductive Collection
  | list (items : List Value)
  | pair (first second : Value)
  /-- The entries in the order in which their keys were first written. -/
  | map (entries : List (Value × Value))
  | set (members : List Value)
  deriving DecidableEq

/-- The collections that values name. -/
structure Store where
  cells : Array Collection

namespace Collection

/-- A collection within itself as messages show it. -/
def abbreviation : Collection → Text
  | list _ => "[...]"
  | pair _ _ => "(...)"
  | map _ => "\x7b...\x7d"
  | set _ => "set(...)"

/-- Whether a collection holds something. -/
def isInhabited : Collection → Bool
  | list items => ! items.isEmpty
  | pair _ _ => true
  | map entries => ! entries.isEmpty
  | set members => ! members.isEmpty

/-- A collection as messages show it, given how they show a value; nothing if they cannot show
one of its values. -/
def describe? (shown : Value → Option Text) : Collection → Option Text
  | list items => do return "[" ++ join ", " (← items.mapM shown) ++ "]"
  | pair first second => do return "(" ++ join ", " (← [first, second].mapM shown) ++ ")"
  | map entries => do
    let shown ← entries.mapM fun (key, value) => do
      return (← shown key) ++ ": " ++ (← shown value)
    return "\x7b" ++ join ", " shown ++ "\x7d"
  | set members =>
    if members.isEmpty then some "set()"
    else do return "\x7b" ++ join ", " (← members.mapM shown) ++ "\x7d"

end Collection

/-! ## Keys -/

namespace Value

/-- The exact number that a value is as a key; a truth value is the key of its number. -/
def scaled? : Value → Option Scaled
  | bool value => some ⟨if value then 1 else 0, 0⟩
  | int value => some ⟨value, 0⟩
  | fraction value => value.scaled?
  | _ => none

/-- Whether two values are the same key of a mapping. Collections are no keys. -/
def sameKey : Value → Value → Bool
  | timestamp a, timestamp b => a.same b
  | collection _, _ | _, collection _ => false
  | a, b =>
    match a.scaled?, b.scaled? with
    | some m, some n => m.same n
    | _, _ => a == b

/-- Whether a value may be a key. -/
def isKey : Value → Bool
  | collection _ => false
  | _ => true

end Value

/-- The entries with one more: the value of an earlier entry of the key is replaced in its
place. -/
def insertEntry (key value : Value) : List (Value × Value) → List (Value × Value)
  | [] => [(key, value)]
  | (k, v) :: entries =>
    if k.sameKey key then (k, value) :: entries else (k, v) :: insertEntry key value entries

/-- The entries of a mapping; of several with one key the last counts. -/
def distinctEntries (entries : List (Value × Value)) : List (Value × Value) :=
  entries.foldl (fun done (key, value) => insertEntry key value done) []

/-- The value of an entry, by a text key. -/
def entryNamed? (key : Text) (entries : List (Value × Value)) : Option Value :=
  (entries.find? fun (k, _) => k.sameKey (.text key)).map (·.2)

/-! ## Members of sets -/

/-- The number of places of a set: a power of two that leaves half of the places free. -/
def placeCount (members : Nat) : Nat :=
  if members < 5 then 8 else Nat.pow 2 (Nat.log2 (2 * members) + 1)

/-- The members of a set in order. Numbers stand in the order of the places to which their
residues lead; where there are others, the members stay as written. -/
def orderedMembers (members : List Value) : List Value :=
  match members.mapM (·.scaled?) with
  | none => members
  | some numbers =>
    let places := numbers.map (·.residue.emod (placeCount members.length))
    ((members.zip places).mergeSort fun a b => a.2 ≤ b.2).map (·.1)

/-! ## Views of values -/

namespace Value

/-- A value that is no collection as messages show it; nothing for a whole number of too many
digits. -/
def describeScalar? : Value → Option Text
  | null => some "None"
  | bool true => some "True"
  | bool false => some "False"
  | int value => decimalNumeral? value
  | fraction value => some value.numeral
  | timestamp stamp => some stamp.describe
  | text value => some (quoted value)
  | octets value => some (describeOctets value)
  | collection _ => some []

end Value

namespace Store

/-- The store without collections. -/
def empty : Store := ⟨#[]⟩

/-- The store with one more collection, and the value that names it. -/
def add (collection : Collection) (store : Store) : Value × Store :=
  (.collection store.cells.size, ⟨store.cells.push collection⟩)

/-- The store with another collection in a cell. -/
def set (cell : Nat) (collection : Collection) (store : Store) : Store :=
  ⟨store.cells.setIfInBounds cell collection⟩

/-- The collection that a value names. -/
def collection? (store : Store) : Value → Option Collection
  | .collection cell => store.cells[cell]?
  | _ => none

/-- The entries of a value that is a mapping. -/
def entries? (store : Store) (value : Value) : Option (List (Value × Value)) :=
  match store.collection? value with
  | some (.map entries) => some entries
  | _ => none

/-- A value as messages show it, inside of the collections in the given cells. -/
def describeWithin (store : Store) : (fuel : Nat) → (around : List Nat) → Value → Option Text
  | 0, _, value => value.describeScalar?
  | fuel + 1, around, value =>
    match value with
    | .collection cell =>
      match store.cells[cell]? with
      | none => some []
      | some collection =>
        if cell ∈ around then some collection.abbreviation
        else collection.describe? (describeWithin store fuel (cell :: around))
    | value => value.describeScalar?

/-- A value as messages show it; nothing if a whole number in it has too many digits. No cell
is entered twice on the way down, so their number bounds the depth. -/
def describe? (store : Store) (value : Value) : Option Text :=
  store.describeWithin (store.cells.size + 1) [] value

/-- A value as the text that a setting takes; nothing if it cannot be written. -/
def asText? (store : Store) : Value → Option Text
  | .text value => some value
  | .timestamp stamp => some stamp.text
  | value => store.describe? value

/-- Whether a value switches something on: all do but nothing, zero and what is empty. -/
def isTrue (store : Store) : Value → Bool
  | .null => false
  | .bool value => value
  | .int value => value != 0
  | .fraction value => ! value.isZero
  | .timestamp _ => true
  | .text value => ! value.isEmpty
  | .octets value => ! value.isEmpty
  | .collection cell => (store.cells[cell]?).any Collection.isInhabited

/-- The values that a setting of several values stands for: what a collection holds, of a
mapping its keys, of a text its characters, of octets their numbers. A value of another kind
cannot be taken apart. -/
def members? (store : Store) (value : Value) : Option (List Value) :=
  match value, store.collection? value with
  | .text value, _ => some (value.map fun c => .text [c])
  | .octets octets, _ => some (octets.map fun octet : Nat => .int octet)
  | _, some (.list items) => some items
  | _, some (.pair first second) => some [first, second]
  | _, some (.map entries) => some (entries.map (·.1))
  | _, some (.set members) => some members
  | _, none => none

end Store

/-- A value with the collections that it names. -/
structure Configuration where
  store : Store
  root : Value

end SchemaMigration
