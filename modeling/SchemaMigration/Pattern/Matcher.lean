import SchemaMigration.Pattern.Plan

/-!
# Matching patterns

A plan is run at a place of a text together with what is to be run behind it: it tries its
own ways in order and takes the first for which the rest succeeds too.

## Main Definitions

* `Track` - the marks of groups, and the place that was reached last
* `Ahead` - what is to be run behind a plan
* `Plan.course` - the course of a plan at a place
* `Match`, `Pattern.matchAt?`, `Pattern.find?` - a match at a place, and the first one
* `Match.span?` - what a group has captured

## Design Notes

A way that fails leaves its track behind. Its marks are wiped off where the plan is in the
rounds of a repetition; elsewhere only those are that lie beyond all earlier ones. So a group
may keep a mark of a way that was given up, and even end in front of its beginning.

A possessive repetition goes on from the place that was reached last, whether by the round
that ended it or by one that failed.

A repetition is bounded by the characters that are left: beyond the least number of rounds
one that begins where the round before it began is never started, so no more rounds than
characters, and one empty one, are possible. That number is the fuel of the loops.
-/

namespace SchemaMigration

open Text

/-- A text of which the characters are counted. -/
abbrev Subject := Array Char

/-- The marks of groups, and the place that was reached last. A border that was passed over is
not marked. -/
structure Track where
  marks : List (Option Nat)
  reached : Nat
  deriving DecidableEq

namespace Track

/-- The track on which nothing is marked yet. -/
def start (place : Nat) : Track := ⟨[], place⟩

/-- A track with another place that was reached last. -/
def reach (track : Track) (place : Nat) : Track := { track with reached := place }

/-- A track with a border marked at a place. -/
def mark (track : Track) (border place : Nat) : Track :=
  if border < track.marks.length then
    { track with marks := track.marks.set border (some place) }
  else
    let passed := List.replicate (border - track.marks.length) none
    { track with marks := track.marks ++ passed ++ [some place] }

/-- A track that failed, with the marks that are left of it: in the rounds of a repetition
those of the track from before, elsewhere as many as that had. -/
def back (failed before : Track) (inRounds : Bool) : Track :=
  { failed with
    marks := if inRounds then before.marks else failed.marks.take before.marks.length }

/-- The borders of a group, if both are marked. -/
def borders? (track : Track) (group : Nat) : Option (Nat × Nat) := do
  let first ← (track.marks[2 * group]?).join
  let last ← (track.marks[2 * group + 1]?).join
  return (first, last)

/-- The borders of a group that does not end in front of its beginning. -/
def span? (track : Track) (group : Nat) : Option (Nat × Nat) :=
  (track.borders? group).filter fun (first, last) => first ≤ last

end Track

/-- How a course ends: with a track that succeeded, or with one that failed. -/
abbrev Attempt := Except Track Track

/-- What happens at a place. -/
abbrev Course := Nat → Track → Attempt

/-- What is to be run behind a plan, and the test of a character with which it begins, if
it does. -/
structure Ahead where
  opening : Option CharacterTest
  course : Course

namespace Ahead

/-- Nothing more: the place is where the plan ends. -/
def finish : Ahead := ⟨none, fun place track => .ok (track.reach place)⟩

/-- The same course, where the test with which it begins is not looked at. -/
def hidden (ahead : Ahead) : Ahead := { ahead with opening := none }

end Ahead

/-! ## Tests -/

/-- Whether a test of a character passes at a place. -/
def CharacterTest.passes (subject : Subject) (place : Nat) (test : CharacterTest) : Bool :=
  subject[place]?.any test.accepts

namespace PlaceTest

/-- Whether a word character stands in front of a place, and whether one stands behind it. -/
def wordsAround (subject : Subject) (isAscii : Bool) (place : Nat) : Bool × Bool :=
  let isWord := fun (c : Char) => Category.word.has isAscii c
  (0 < place && subject[place - 1]?.any isWord, subject[place]?.any isWord)

/-- Whether a test of a place passes. In the empty text there is neither a boundary nor a
place that is none. -/
def passes (subject : Subject) (place : Nat) : PlaceTest → Bool
  | textStart => place = 0
  | textEnd => place = subject.size
  | lineStart => place = 0 || subject[place - 1]? = some '\n'
  | lineEnd => place = subject.size || subject[place]? = some '\n'
  | lastLineEnd =>
    place = subject.size || (place + 1 = subject.size && subject[place]? = some '\n')
  | boundary isAscii negated =>
    let (before, behind) := wordsAround subject isAscii place
    ! subject.isEmpty && (before != behind) != negated

end PlaceTest

/-- How many characters from a place on pass a test, of which at most a number is counted. -/
def passing (subject : Subject) (test : CharacterTest) (place : Nat) : (most : Nat) → Nat
  | 0 => 0
  | most + 1 =>
    if test.passes subject place then passing subject test (place + 1) most + 1 else 0

/-- Whether the characters from one place on are the same as those between two others. -/
def repeats (subject : Subject) (folding : Folding) (place first : Nat) : (count : Nat) → Bool
  | 0 => true
  | count + 1 =>
    match subject[place]?, subject[first]? with
    | some c, some d =>
      folding.same c d && repeats subject folding (place + 1) (first + 1) count
    | _, _ => false

/-! ## Repeated tests -/

/-- A track on which characters were counted from a place on. Where case is removed for a set,
the place behind them was reached. -/
def counted (test : CharacterTest) (place count : Nat) (track : Track) : Track :=
  track.reach (if test.isFoldedSet then place + count else place)

/-- The course behind a number of characters that pass a test, and if it fails behind fewer,
where `extra` may be given up. Places are left out at which the course cannot begin. -/
def shorten (subject : Subject) (inRounds : Bool) (ahead : Ahead) (place least : Nat) :
    (extra : Nat) → Track → Attempt
  | extra, track =>
    let here := place + least + extra
    let skipped := (ahead.opening.bind (·.onlyCode?)).any fun code =>
      ! subject[here]?.any (·.toNat == code)
    let tried := if skipped then .error track
      else (ahead.course here (track.reach here)).mapError (·.back track inRounds)
    match extra, tried with
    | _, .ok found => .ok found
    | 0, .error failed => .error failed
    | extra + 1, .error failed => shorten subject inRounds ahead place least extra failed

/-- The course behind some characters that pass a test, and if it fails behind more, of which
at most a number is taken. -/
def lengthen (subject : Subject) (inRounds : Bool) (test : CharacterTest) (ahead : Ahead) :
    (more place : Nat) → Track → Attempt
  | 0, _, track => .error track
  | more + 1, place, track =>
    match ahead.course place (track.reach place) with
    | .ok found => .ok found
    | .error failed =>
      let passes := test.passes subject place
      let left := counted test place (if passes then 1 else 0) (failed.back track inRounds)
      if passes then lengthen subject inRounds test ahead more (place + 1) left else .error left

/-- The course of a repeated test. -/
def runCourse (subject : Subject) (inRounds : Bool) (mode : Mode) (least : Nat)
    (most : Option Nat) (test : CharacterTest) (ahead : Ahead) : Course := fun place track =>
  let left := subject.size - place
  let most := most.getD left
  if left < least then .error track
  else match mode with
    | .greedy =>
      let count := passing subject test place (min most left)
      let track := counted test place count track
      if count < least then .error track
      else shorten subject inRounds ahead place least (count - least) track
    | .lazy =>
      let count := passing subject test place least
      let track := if least = 0 then track.reach place else counted test place count track
      if count < least then .error track
      else lengthen subject inRounds test ahead (min most left + 1 - least) (place + least) track
    | .possessive =>
      let count := passing subject test place (min most left)
      if count < least then .error (counted test place count track)
      else ahead.course (place + count) (track.reach (place + count))

/-! ## Rounds -/

/-- Whether one more round is allowed. -/
def belowMost (most : Option Nat) (count : Nat) : Bool := most.all (count < ·)

/-- The rounds of a repetition that tries more rounds first; `last` is the place where the
latest round beyond the least number began. -/
def greedyRounds (round : Ahead → Course) (least : Nat) (most : Option Nat) (ahead : Ahead) :
    (fuel count : Nat) → (last : Option Nat) → Course
  | 0, _, _, place, track => ahead.course place track
  | fuel + 1, count, last, place, track =>
    let again := fun (last : Option Nat) =>
      round ⟨none, greedyRounds round least most ahead fuel (count + 1) last⟩ place
    let leave := fun (track : Track) =>
      (ahead.course place track).mapError (·.reach place)
    let track := track.reach place
    if count < least then (again last track).mapError (·.reach place)
    else if belowMost most count && last != some place then
      match again (some place) track with
      | .ok found => .ok found
      | .error failed => leave ((failed.back track true).reach place)
    else leave track

/-- The rounds of a repetition that tries fewer rounds first; `inRounds` tells whether the
repetition itself is in rounds. -/
def lazyRounds (inRounds : Bool) (round : Ahead → Course) (least : Nat) (most : Option Nat)
    (ahead : Ahead) : (fuel count : Nat) → (last : Option Nat) → Course
  | 0, _, _, place, track => ahead.course place track
  | fuel + 1, count, last, place, track =>
    let again := fun (last : Option Nat) (track : Track) =>
      (round ⟨none, lazyRounds inRounds round least most ahead fuel (count + 1) last⟩ place
        track).mapError (·.reach place)
    let track := track.reach place
    if count < least then again last track
    else match ahead.course place track with
      | .ok found => .ok found
      | .error failed =>
        let left := (failed.back track inRounds).reach place
        if belowMost most count && last != some place then again (some place) left
        else .error left

/-- The track behind as many rounds as possible, each taken in its first way. The number of
rounds that must succeed comes first; after them a round that fails ends the repetition, and
so does one that stays at its place. -/
def possessiveRounds (round : Course) (place : Nat) :
    (fuel least : Nat) → (most : Option Nat) → Track → Attempt
  | 0, _, _, track => .ok track
  | fuel + 1, least + 1, most, track =>
    match round track.reached track with
    | .ok after => possessiveRounds round place fuel least (most.map (· - 1)) after
    | .error failed => .error (failed.reach place)
  | fuel + 1, 0, most, track =>
    if most = some 0 then .ok track
    else match round track.reached track with
      | .error failed => .ok (failed.back track true)
      | .ok after =>
        if after.reached = track.reached then .ok after
        else possessiveRounds round place fuel 0 (most.map (· - 1)) after

/-! ## Plans -/

namespace Plan

/-- The course of a plan and of what is ahead of it. `inRounds` tells whether the plan
is in the rounds of a repetition. -/
def course (subject : Subject) (inRounds : Bool) : Plan → Ahead → Course
  | done, ahead, here, track => ahead.course here track
  | character test, ahead, here, track =>
    if test.passes subject here then ahead.course (here + 1) track else .error track
  | anchor test, ahead, here, track =>
    if test.passes subject here then ahead.course here track else .error track
  | mark border, ahead, here, track => ahead.course here (track.mark border here)
  | again folding group, ahead, here, track =>
    match track.span? group with
    | some (first, last) =>
      if repeats subject folding here first (last - first) then
        ahead.course (here + (last - first)) track
      else .error track
    | none => .error track
  | sequence first second, ahead, here, track =>
    course subject inRounds first
      ⟨second.opening ahead.opening, course subject inRounds second ahead⟩ here track
  | either first others, ahead, here, track =>
    let rest := course subject inRounds others ahead here
    if (first.opening none).any fun test => test.isExact && ! test.passes subject here then
      rest track
    else match course subject inRounds first ahead.hidden here (track.reach here) with
      | .ok found => .ok found
      | .error failed => rest (failed.back track inRounds)
  | never, _, _, track => .error track
  | condition group present absent, ahead, here, track =>
    if (track.span? group).isSome then
      course subject inRounds present (if absent = done then ahead else ahead.hidden) here track
    else course subject inRounds absent ahead here track
  | look back false body, ahead, here, track =>
    if here < back then .error track
    else match course subject inRounds body .finish (here - back) (track.reach (here - back)) with
      | .ok found => ahead.course here found
      | .error failed => .error failed
  | look back true body, ahead, here, track =>
    if here < back then ahead.course here track
    else match course subject inRounds body .finish (here - back) (track.reach (here - back)) with
      | .ok found => .error found
      | .error failed => ahead.course here (failed.back track inRounds)
  | atomic body, ahead, here, track =>
    match course subject inRounds body .finish here (track.reach here) with
    | .ok found => ahead.course found.reached found
    | .error failed => .error (failed.reach here)
  | run mode least most test, ahead, here, track =>
    runCourse subject inRounds mode least most test ahead here track
  | rounds mode least most body, ahead, here, track =>
    let fuel := least + subject.size + 2
    match mode with
    | .greedy => greedyRounds (course subject true body) least most ahead fuel 0 none here track
    | .lazy =>
      lazyRounds inRounds (course subject true body) least most ahead fuel 0 none here track
    | .possessive =>
      match possessiveRounds (course subject inRounds body .finish) here fuel least most
          (track.reach here) with
      | .ok found => ahead.course found.reached found
      | .error failed => .error failed

end Plan

/-! ## Matches -/

/-- A match: the places where it begins and ends, and its track. -/
structure Match where
  first : Nat
  last : Nat
  track : Track
  deriving DecidableEq

namespace Match

/-- What a group has captured, given by its borders; group zero is the whole match. -/
def span? (found : Match) : (group : Nat) → Option (Nat × Nat)
  | 0 => some (found.first, found.last)
  | group + 1 => found.track.borders? group

/-- Whether a group ends in front of its beginning. -/
def hasWrongSpan (found : Match) (groupCount : Nat) : Bool :=
  (List.range groupCount).any fun group =>
    (found.track.borders? group).any fun (first, last) => last < first

end Match

namespace Pattern

/-- The match of a pattern at a place; an empty match may be refused. -/
def matchAt? (pattern : Pattern) (subject : Subject) (refuseEmpty : Bool) (place : Nat) :
    Option Match :=
  let stop : Ahead := ⟨none, fun last track =>
    if refuseEmpty && last == place then .error track else .ok (track.reach last)⟩
  match pattern.plan.course subject false stop place (.start place) with
  | .ok track => some ⟨place, track.reached, track⟩
  | .error _ => none

/-- The first match of a pattern that begins behind a place, of which at most a number is
tried. -/
def matchBehind? (pattern : Pattern) (subject : Subject) (place : Nat) : Nat → Option Match
  | 0 => none
  | count + 1 =>
    (pattern.matchAt? subject false (place + 1)).or (pattern.matchBehind? subject (place + 1) count)

/-- The first match of a pattern that begins at a place or behind it; an empty match at the
place itself may be refused. -/
def find? (pattern : Pattern) (subject : Subject) (refuseEmpty : Bool) (place : Nat) :
    Option Match :=
  let left := subject.size - place
  if left < pattern.least then none
  else (pattern.matchAt? subject refuseEmpty place).or
    (pattern.matchBehind? subject place (left - (pattern.least - 1)))

/-- Whether a pattern matches somewhere in a text. -/
def occursIn (pattern : Pattern) (text : Text) : Bool :=
  (pattern.find? text.toArray false 0).isSome

end Pattern

end SchemaMigration
