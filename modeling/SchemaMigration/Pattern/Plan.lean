import SchemaMigration.Pattern.CharacterTest

/-!
# Plans of patterns

What a pattern asks for, once its flags are known: the same tree with its flags worked into
the tests, and with groups replaced by the marks at their borders.

## Main Definitions

* `PlaceTest` - a test of a place
* `Plan` - the parts of a plan
* `Plan.opening` - the test with which a plan begins
* `Node.plan` - the plan of a tree
* `Pattern` - the plan of a whole pattern with its groups
-/

namespace SchemaMigration

/-- A test of a place. -/
inductive PlaceTest
  | textStart
  | textEnd
  | lineStart
  | lineEnd
  /-- The end of the text, or a newline that ends it. -/
  | lastLineEnd
  | boundary (isAscii negated : Bool)
  deriving DecidableEq

/-- The test that an anchor stands for. -/
def Anchor.test (flags : Flags) : Anchor → PlaceTest
  | textStart => .textStart
  | textEnd => .textEnd
  | lineStart => if flags.has 'm' then .lineStart else .textStart
  | lineEnd => if flags.has 'm' then .lineEnd else .lastLineEnd
  | boundary negated => .boundary (flags.has 'a') negated

/-- The parts of a plan. -/
inductive Plan
  | done
  | character (test : CharacterTest)
  | anchor (test : PlaceTest)
  /-- Marks the place as a border of a group; borders are numbered in pairs. -/
  | mark (border : Nat)
  /-- The text of a group once more; groups are numbered from zero. -/
  | again (folding : Folding) (group : Nat)
  | sequence (first second : Plan)
  | either (first others : Plan)
  | never
  | condition (group : Nat) (present absent : Plan)
  /-- A test of what stands a number of characters in front of the place. -/
  | look (back : Nat) (negated : Bool) (body : Plan)
  | atomic (body : Plan)
  /-- A test that is repeated. -/
  | run (mode : Mode) (least : Nat) (most : Option Nat) (test : CharacterTest)
  /-- Anything else that is repeated. -/
  | rounds (mode : Mode) (least : Nat) (most : Option Nat) (body : Plan)
  deriving DecidableEq

namespace Plan

/-- The test of a character with which a plan begins, given that of what stands behind. -/
def opening (behind : Option CharacterTest) : Plan → Option CharacterTest
  | done => behind
  | character test => some test
  | sequence first second => first.opening (second.opening behind)
  | _ => none

end Plan

/-- The plan of a tree, given the widths of its groups. -/
def Node.plan (groups : Nat → Width) (flags : Flags) : Node → Plan
  | empty => .done
  | character code => .character (.ofCharacter flags false code)
  | otherCharacter code => .character (.ofCharacter flags true code)
  | any => .character (.ofAny flags)
  | set negated items => .character (.ofSet flags negated items)
  | anchor kind => .anchor (kind.test flags)
  | sequence first second => .sequence (first.plan groups flags) (second.plan groups flags)
  | either first others => .either (first.plan groups flags) (others.plan groups flags)
  | never => .never
  | group number body =>
    .sequence (.mark (2 * number - 2))
      (.sequence (body.plan groups flags) (.mark (2 * number - 1)))
  | flagged on off body => body.plan groups (flags.combine on off)
  | atomic body => .atomic (body.plan groups flags)
  | repetition mode least most body =>
    match body.plan groups flags with
    | .character test => .run mode least most test
    | body => .rounds mode least most body
  | backreference number => .again (.ofFlags flags) (number - 1)
  | look isBehind negated body =>
    .look (if isBehind then (body.width groups).least else 0) negated (body.plan groups flags)
  | conditional number present absent =>
    .condition (number - 1) (present.plan groups flags) (absent.plan groups flags)

/-- The plan of a pattern, the least number of characters that it matches, how many groups
it has, and the groups that have names. -/
structure Pattern where
  plan : Plan
  least : Nat
  groupCount : Nat
  names : List (Text × Nat)
  deriving DecidableEq

end SchemaMigration
