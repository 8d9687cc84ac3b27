import SchemaMigration.Text.Basic

/-!
# Patterns

A pattern is a tree of tests and of ways to combine them. Patterns are matched by trying
alternatives in order and giving up as late as possible, so of several matches at a place
the first in that order counts.

## Main Definitions

* `ClassItem`, `Category` - what a set of characters is made of
* `Anchor` - a test of a place
* `Flags` - the switches that a pattern may set
* `Node` - the tree of a pattern
* `Node.width` - the least and greatest number of characters that a node matches

## Design Notes

Characters are given by their code points, since a pattern may name code points that no
character has. Sequences and alternatives are binary, so recursion over a tree is structural:
a sequence ends in its last item, and alternatives end in `never`.
-/

namespace SchemaMigration

/-- The classes of characters that have an escape of their own. -/
inductive Category
  | digit
  | blank
  | word
  deriving DecidableEq

/-- A part of a set of characters. -/
inductive ClassItem
  | single (code : Nat)
  | range (first last : Nat)
  | category (kind : Category) (negated : Bool)
  deriving DecidableEq

/-- A test of a place that reads no characters. -/
inductive Anchor
  | textStart
  | textEnd
  | lineStart
  | lineEnd
  | boundary (negated : Bool)
  deriving DecidableEq

/-- The letters of the switches that are on: `i` ignores case, `m` lets `^` and `$` match at
every line, `s` lets the dot match a newline, `x` allows blanks and comments, `a` limits
classes to ASCII, and `t` forbids repetitions. -/
abbrev Flags := List Char

namespace Flags

/-- Whether a flag is on. -/
def has (flags : Flags) (flag : Char) : Bool := flag ∈ flags

/-- The flags inside a group that switches some on and some off. -/
def combine (flags on off : Flags) : Flags :=
  let kept := if on.any (fun c => c == 'a' || c == 'u') then
    flags.filter (fun c => c != 'a' && c != 'u') else flags
  (kept ++ on).filter (· ∉ off)

end Flags

/-- How a repetition chooses among numbers of rounds. -/
inductive Mode
  /-- As many rounds as possible first. -/
  | greedy
  /-- As few rounds as possible first. -/
  | lazy
  /-- As many rounds as possible, and never fewer. -/
  | possessive
  deriving DecidableEq

/-- The tree of a pattern. -/
inductive Node
  | empty
  | character (code : Nat)
  /-- Any character but one. -/
  | otherCharacter (code : Nat)
  | any
  | set (negated : Bool) (items : List ClassItem)
  | anchor (anchor : Anchor)
  | sequence (first second : Node)
  /-- The first of several alternatives, and the others. -/
  | either (first others : Node)
  /-- No alternative. -/
  | never
  | group (number : Nat) (body : Node)
  | flagged (on off : Flags) (body : Node)
  | atomic (body : Node)
  | repetition (mode : Mode) (least : Nat) (most : Option Nat) (body : Node)
  | backreference (number : Nat)
  /-- A test of the characters behind a place or in front of it. -/
  | look (isBehind negated : Bool) (body : Node)
  | conditional (number : Nat) (present absent : Node)
  deriving DecidableEq

/-- The least and greatest number of characters that something matches, up to a limit that no
text reaches. -/
structure Width where
  least : Nat
  most : Nat
  deriving DecidableEq

namespace Width

/-- The number that stands for all numbers from it on. -/
def limit : Nat := 18446744073709551616

/-- The width of what matches nothing at all but a place. -/
def zero : Width := ⟨0, 0⟩

/-- The width of one character. -/
def one : Width := ⟨1, 1⟩

/-- A width with its numbers kept to the limit. -/
def limited (least most : Nat) : Width := ⟨min least limit, min most limit⟩

/-- The width of what matches one after the other. -/
def add (a b : Width) : Width := limited (a.least + b.least) (a.most + b.most)

/-- The width of what matches the one or the other. -/
def union (a b : Width) : Width := ⟨min a.least b.least, max a.most b.most⟩

/-- The width of a number of rounds between two limits. -/
def times (least : Nat) (most : Option Nat) (a : Width) : Width :=
  limited (least * a.least) (match most with
    | some most => most * a.most
    | none => if a.most = 0 then 0 else limit)

end Width

namespace Node

/-- Items one after the other. -/
def ofItems : List Node → Node
  | [] => empty
  | [item] => item
  | item :: items => sequence item (ofItems items)

/-- Alternatives in order. -/
def ofAlternatives (alternatives : List Node) : Node := alternatives.foldr either never

/-- The width of a node, given the widths of the groups that it may refer to. -/
def width (groups : Nat → Width) : Node → Width
  | empty | anchor _ | look _ _ _ => .zero
  | character _ | otherCharacter _ | any | set _ _ => .one
  | sequence a b => (a.width groups).add (b.width groups)
  | either a b => (a.width groups).union (b.width groups)
  | never => ⟨Width.limit, 0⟩
  | group _ body | flagged _ _ body | atomic body => body.width groups
  | repetition _ least most body => (body.width groups).times least most
  | backreference number => groups number
  | conditional _ present absent => (present.width groups).union (absent.width groups)

/-- Whether a node is an anchor. -/
def isAnchor : Node → Bool
  | anchor _ => true
  | _ => false

/-- Whether a node is a repetition. -/
def isRepetition : Node → Bool
  | repetition _ _ _ _ => true
  | _ => false

/-- Whether a node has no parts that are nodes. -/
def isLeaf : Node → Bool
  | character _ | otherCharacter _ | any | set _ _ | anchor _ | backreference _ => true
  | _ => false

end Node

end SchemaMigration
