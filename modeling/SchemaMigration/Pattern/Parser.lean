import SchemaMigration.Pattern.Plan
import SchemaMigration.Pattern.Reader
import SchemaMigration.Text.CharacterName

/-!
# Reading a pattern

The grammar of patterns: alternatives of sequences of items, an item being a character, a
set, an anchor, a group or an escape, possibly repeated.

## Main Definitions

* `Pattern.escape` - the node of an escape
* `Pattern.setItems` - the parts of a set of characters
* `Item` - a node or a group that only groups
* `Pattern.ofAlternatives` - the nodes that alternatives stand for
* `Pattern.choiceNodes` - alternatives up to a closing parenthesis or the end
* `Pattern.parse` - the pattern that a text is

## Design Notes

A group that only groups leaves no trace but one: a repetition may not directly follow a
repetition, but it may follow such a group. Nodes with which all alternatives begin are put
in front of them, and alternatives of one character each become a set.

Every loop passes over at least one token in each round or nesting, so a multiple of the
number of tokens bounds the depth of all calls; the bound is computed in `Pattern.parse`.
-/

namespace SchemaMigration.Pattern

open Text Reader

/-! ## Escapes -/

/-- Whether a character is an ASCII hexadecimal digit. -/
def isHexDigit (c : Char) : Bool :=
  c.isDigit || ('a' ≤ c && c ≤ 'f') || ('A' ≤ c && c ≤ 'F')

/-- Whether a character is an octal digit. -/
def isOctalDigit (c : Char) : Bool := '0' ≤ c && c ≤ '7'

/-- The value of a numeral of ASCII digits to a base up to sixteen. -/
def numeralValue (base : Nat) (digits : Text) : Nat :=
  digits.foldl (fun n c =>
    let d := if c.isDigit then c.toNat - '0'.toNat else c.toLower.toNat - 'a'.toNat + 10
    base * n + d) 0

/-- The code point behind `x`, `u` or `U`, of which the given number of digits is asked for. -/
def codeEscape (letter : Char) (count : Nat) : Reader Nat := do
  let digits ← readWhile isHexDigit count
  let escape := ['\\', letter] ++ digits
  if digits.length < count then fail (.incompleteEscape escape) escape.length
  let code := numeralValue 16 digits
  if 0x80000000 ≤ code then failAnywhere .overflow
  if 0x110000 ≤ code then fail (.badEscape escape) escape.length
  return code

/-- The character that a name in braces stands for. -/
def namedEscape : Reader Nat := do
  if ! (← accept '\x7b') then fail .missingBrace 0
  let name ← readName '\x7d' "character name"
  match characterNamed? name with
  | some code => return code
  | none => fail (.undefinedCharacter name) (name.length + 4)

/-- The control character that a letter stands for behind a backslash. -/
def controlEscape? : Char → Option Char
  | 'a' => some '\x07'
  | 'f' => some '\x0c'
  | 'n' => some '\n'
  | 'r' => some '\r'
  | 't' => some '\t'
  | 'v' => some '\x0b'
  | '\\' => some '\\'
  | _ => none

/-- The category that a letter stands for behind a backslash, and whether it is negated. -/
def categoryEscape? : Char → Option ClassItem
  | 'd' => some (.category .digit false)
  | 'D' => some (.category .digit true)
  | 's' => some (.category .blank false)
  | 'S' => some (.category .blank true)
  | 'w' => some (.category .word false)
  | 'W' => some (.category .word true)
  | _ => none

/-- The anchor that a letter stands for behind a backslash. -/
def anchorEscape? : Char → Option Anchor
  | 'A' => some .textStart
  | 'Z' => some .textEnd
  | 'b' => some (.boundary false)
  | 'B' => some (.boundary true)
  | _ => none

/-- The escapes with a code point or a name, and those that stand for their character. -/
def commonEscape (c : Char) : Reader Nat := do
  match c with
  | 'x' => codeEscape 'x' 2
  | 'u' => codeEscape 'u' 4
  | 'U' => codeEscape 'U' 8
  | 'N' => namedEscape
  | c => if c.isAlpha then fail (.badEscape ['\\', c]) 2 else return c.toNat

/-- What an escape stands for inside a set. -/
def setEscape (c : Char) : Reader ClassItem := do
  if c = 'b' then return .single 8
  if let some control := controlEscape? c then return .single control.toNat
  if let some category := categoryEscape? c then return category
  if isOctalDigit c then
    let digits := c :: (← readWhile isOctalDigit 2)
    let code := numeralValue 8 digits
    if 0o377 < code then fail (.octalTooLarge ('\\' :: digits)) (digits.length + 1)
    return .single code
  if c.isDigit then fail (.badEscape ['\\', c]) 2
  return .single (← commonEscape c)

/-- The reference to a group behind a backslash. -/
def groupReference (digits : Text) : Reader Node := do
  let number := numeralValue 10 digits
  if number < (← get).groups.length then
    if (← closedGroup? number).isNone then fail .openGroup (digits.length + 1)
    checkLookBehind number
    return .backreference number
  else fail (.unknownGroup number) digits.length

/-- What a digit other than zero stands for behind a backslash: with two more octal digits
a code point, else a group. -/
def digitEscape (c : Char) : Reader Node := do
  match ← peek with
  | some (.plain d) =>
    if ! d.isDigit then groupReference [c]
    else
      skip
      match ← peek with
      | some (.plain e) =>
        if isOctalDigit c && isOctalDigit d && isOctalDigit e then
          skip
          let code := numeralValue 8 [c, d, e]
          if 0o377 < code then fail (.octalTooLarge ['\\', c, d, e]) 4
          return .character code
        else groupReference [c, d]
      | _ => groupReference [c, d]
  | _ => groupReference [c]

/-- What an escape stands for outside sets. -/
def escape (c : Char) : Reader Node := do
  if let some anchor := anchorEscape? c then return .anchor anchor
  if let some category := categoryEscape? c then return .set false [category]
  if let some control := controlEscape? c then return .character control.toNat
  if c = '0' then
    let digits ← readWhile isOctalDigit 2
    return .character (numeralValue 8 digits)
  if c.isDigit then digitEscape c
  else return .character (← commonEscape c)

/-! ## Sets -/

/-- The part of a set that a token stands for. -/
def setItem : Token → Reader ClassItem
  | .plain c => return .single c.toNat
  | .escaped c => setEscape c

/-- The parts of a set up to its closing bracket, behind the parts `items`; the set begins
at the position `here`. -/
def setItems (here : Nat) (items : List ClassItem) : Nat → Reader (List ClassItem)
  | 0 => return items
  | fuel + 1 => do
    match ← next with
    | none => fail .unterminatedSet ((← position) - here)
    | some token =>
      if token = .plain ']' && ! items.isEmpty then return items
      let first ← setItem token
      if ! (← accept '-') then setItems here (items ++ [first]) fuel
      else
        match ← next with
        | none => fail .unterminatedSet ((← position) - here)
        | some (.plain ']') => return items ++ [first, .single '-'.toNat]
        | some last =>
          let back := token.text.length + 1 + last.text.length
          match first, ← setItem last with
          | .single a, .single b =>
            if b < a then fail (.badRange token.text last.text) back
            else setItems here (items ++ [.range a b]) fuel
          | _, _ => fail (.badRange token.text last.text) back

/-- The set behind an opening bracket. -/
def setNode : Reader Node := do
  let here := (← position) - 1
  let negated ← accept '^'
  let items := (← setItems here [] ((← get).tokens.length + 1)).eraseDups
  match items with
  | [.single code] => return if negated then .otherCharacter code else .character code
  | items => return .set negated items

/-! ## Repetition -/

/-- An item of a sequence: a node, or a group that only groups. -/
inductive Item
  | node (tree : Node)
  | group (nodes : List Node)

namespace Item

/-- The nodes of an item. -/
def nodes : Item → List Node
  | node tree => [tree]
  | group nodes => nodes

/-- Whether an item is an anchor. -/
def isAnchor : Item → Bool
  | node tree => tree.isAnchor
  | group _ => false

/-- Whether an item is a repetition. -/
def isRepetition : Item → Bool
  | node tree => tree.isRepetition
  | group _ => false

/-- The nodes of items, of which the latest comes first, in order. -/
def nodesOf (items : List Item) : List Node := items.reverse.flatMap nodes

end Item

/-- The number from which on numbers of rounds cannot be held. -/
def roundsLimit : Nat := 4294967295

/-- The number of rounds that a numeral stands for. -/
def roundsOfNumeral (digits : Text) : Reader Nat := do
  if mostDigits < digits.length then failAnywhere (.countTooLong digits.length)
  let number := numeralValue 10 digits
  if roundsLimit ≤ number then failAnywhere .overflow
  return number

/-- The least and greatest number of rounds behind an opening brace; without them the brace
stands for itself. -/
def bounds? : Reader (Option (Nat × Option Nat)) := do
  let start ← get
  if (← peek) = some (.plain '\x7d') then return none
  let many := start.tokens.length
  let low ← readWhile Char.isDigit many
  let high ← if ← accept ',' then readWhile Char.isDigit many else pure low
  if ! (← accept '\x7d') then
    set start
    return none
  let least ← if low.isEmpty then pure 0 else roundsOfNumeral low
  if high.isEmpty then return some (least, none)
  let most ← roundsOfNumeral high
  if most < least then fail .leastAboveMost ((← position) - start.position)
  return some (least, some most)

/-- The numbers of rounds that a repetition sign asks for, if it is one. -/
def roundsOf? (sign : Char) : Reader (Option (Nat × Option Nat)) := do
  match sign with
  | '?' => return some (0, some 1)
  | '*' => return some (0, none)
  | '+' => return some (1, none)
  | '\x7b' => bounds?
  | _ => return none

/-- How a repetition chooses, from the sign behind it. -/
def repetitionMode : Reader Mode := do
  if ← accept '?' then return .lazy
  if ← accept '+' then return .possessive
  return .greedy

/-- The items read so far, latest first, with the latest repeated; `here` is the position
behind the repetition sign. -/
def repeatLast (here : Nat) (items : List Item) (least : Nat) (most : Option Nat) :
    Reader (List Item) := do
  match items with
  | [] => fail .nothingToRepeat ((← position) - here + 1)
  | item :: earlier =>
    if item.isAnchor then fail .nothingToRepeat ((← position) - here + 1)
    if item.isRepetition then fail .multipleRepeat ((← position) - here + 1)
    return .node (.repetition (← repetitionMode) least most (.ofItems item.nodes)) :: earlier

/-! ## Flags -/

/-- The letters of flags. -/
def flagLetters : Flags := ['i', 'L', 'm', 's', 'x', 'a', 't', 'u']

/-- The flags that choose what classes contain. -/
def classFlags : Flags := ['L', 'a', 'u']

/-- Whether a token is a letter. -/
def isLetterToken : Token → Bool
  | .plain c => isLetter c
  | .escaped _ => false

/-- The flags that are switched on, from the given one on, and the character behind them. -/
def flagsOn (on : Flags) (flag : Char) : Nat → Reader (Flags × Char)
  | 0 => return (on, ')')
  | fuel + 1 => do
    if flag = 'L' then fail .localeFlag 0
    let on := on ++ [flag]
    if flag ∈ classFlags && on.any (fun c => c ∈ classFlags && c != flag) then
      fail .incompatibleFlags 0
    match ← next with
    | none => fail .missingFlagsEnd 0
    | some token =>
      match token with
      | .plain c =>
        if c = ')' || c = '-' || c = ':' then return (on, c)
        if c ∈ flagLetters then flagsOn on c fuel
        else fail (if isLetterToken token then .unknownFlag else .missingFlagsEnd) 1
      | .escaped _ => fail .missingFlagsEnd 2

/-- The flags that are switched off, from the given one on. -/
def flagsOff (off : Flags) (flag : Char) : Nat → Reader Flags
  | 0 => return off
  | fuel + 1 => do
    if flag ∈ classFlags then fail .classFlagOff 0
    let off := off ++ [flag]
    match ← next with
    | none => fail .missingColon 0
    | some token =>
      match token with
      | .plain c =>
        if c = ':' then return off
        if c ∈ flagLetters then flagsOff off c fuel
        else fail (if isLetterToken token then .unknownFlag else .missingColon) 1
      | .escaped _ => fail .missingColon 2

/-- The flags of a group, from the character behind the question mark on; `none` for flags
of the whole pattern, which are then on. -/
def groupFlags (first : Char) : Reader (Option (Flags × Flags)) := do
  let fuel := (← get).tokens.length + 1
  let (on, sign) ← if first = '-' then pure ([], '-') else flagsOn [] first fuel
  if sign = ')' then
    modify fun reading => { reading with flags := reading.flags ++ on }
    return none
  if 't' ∈ on then fail .globalFlagOn 1
  if sign = ':' then return some (on, [])
  match ← next with
  | none => fail .missingFlag 0
  | some token =>
    match token with
    | .plain c =>
      if c ∉ flagLetters then
        fail (if isLetterToken token then .unknownFlag else .missingFlag) 1
      let off ← flagsOff [] c fuel
      if 't' ∈ off then fail .globalFlagOff 1
      if on.any (· ∈ off) then fail .flagOnAndOff 1
      return some (on, off)
    | .escaped _ => fail .missingFlag 2

/-! ## Groups -/

/-- Passes over a comment up to its closing parenthesis; the group began at `start`. -/
def skipComment (start : Nat) : Nat → Reader Unit
  | 0 => return ()
  | fuel + 1 => do
    match ← peek with
    | none => fail .unterminatedComment ((← position) - start)
    | some token =>
      skip
      if token = .plain ')' then return () else skipComment start fuel

/-- Passes over the rest of a line. -/
def skipLine : Nat → Reader Unit
  | 0 => return ()
  | fuel + 1 => do
    match ← next with
    | none => return ()
    | some token => if token = .plain '\n' then return () else skipLine fuel

/-- The number from which on no pattern has a group. -/
def groupsLimit : Nat := 2147483647

/-- The group that a condition is about. -/
def conditionGroup : Reader Nat := do
  let name ← readName ')' "group name"
  if isIdentifier name then
    match (← get).names.lookup name with
    | none => fail (.unknownGroupName name) (name.length + 1)
    | some number =>
      checkLookBehind number
      return number
  else
    match integer? name with
    | some (.ofNat number) =>
      if number = 0 then fail .badGroupNumber (name.length + 1)
      if groupsLimit ≤ number then fail (.unknownGroup number) (name.length + 1)
      let here := (← position) - name.length - 1
      modify fun reading => { reading with references := reading.references ++ [(number, here)] }
      checkLookBehind number
      return number
    | _ => fail (.badGroupName name) (name.length + 1)

/-- Passes over the parenthesis that closes the group begun at `start`. -/
def closeParenthesis (start : Nat) : Reader Unit := do
  if ! (← accept ')') then fail .unterminatedGroup ((← position) - start)

/-- The sort of a group, as the characters behind its parenthesis say. -/
inductive GroupKind
  | capture (name : Option Text)
  | plain (on off : Flags)
  | atomic
  | lookAhead (negated : Bool)
  | lookBehind (negated : Bool)
  | condition (number : Nat)
  /-- A reference to a group by its name, which is complete. -/
  | reference (number : Nat)
  /-- A comment or flags of the whole pattern, which leave no node. -/
  | nothing
  deriving DecidableEq

/-- A group of the extended sorts of which the names begin with `P`. -/
def namedGroupKind : Reader GroupKind := do
  if ← accept '<' then
    let name ← readName '>' "group name"
    checkGroupName name
    return .capture (some name)
  if ← accept '=' then
    let name ← readName ')' "group name"
    checkGroupName name
    match (← get).names.lookup name with
    | none => fail (.unknownGroupName name) (name.length + 1)
    | some number =>
      if (← closedGroup? number).isNone then fail .openGroup (name.length + 1)
      checkLookBehind number
      return .reference number
  match ← next with
  | none => fail .unexpectedEnd 0
  | some token => fail (.unknownExtension ('P' :: token.text)) (token.text.length + 2)

/-- The sort of the group that begins at `start`; `atStart` tells whether nothing stands in
front of it in the pattern. -/
def groupKind (start : Nat) (atStart : Bool) : Reader GroupKind := do
  if ! (← accept '?') then return .capture none
  match ← next with
  | none => fail .unexpectedEnd 0
  | some (.escaped c) => fail (.unknownExtension ['\\', c]) 3
  | some (.plain c) =>
    match c with
    | 'P' => namedGroupKind
    | ':' => return .plain [] []
    | '#' =>
      skipComment start ((← get).tokens.length + 1)
      return .nothing
    | '=' => return .lookAhead false
    | '!' => return .lookAhead true
    | '<' =>
      match ← next with
      | none => fail .unexpectedEnd 0
      | some (.plain '=') => return .lookBehind false
      | some (.plain '!') => return .lookBehind true
      | some token => fail (.unknownExtension ('<' :: token.text)) (token.text.length + 2)
    | '(' => return .condition (← conditionGroup)
    | '>' => return .atomic
    | c =>
      if c ∉ flagLetters && c != '-' then fail (.unknownExtension [c]) 2
      match ← groupFlags c with
      | none =>
        if ! atStart then fail .flagsNotAtStart ((← position) - start)
        return .nothing
      | some (on, off) => return .plain on off

/-- Whether a character is passed over where blanks and comments are allowed. -/
def isLayout (c : Char) : Bool :=
  c == ' ' || c == '\t' || c == '\n' || c == '\r' || c == '\x0b' || c == '\x0c'

/-! ## Alternatives -/

/-- The nodes with which an alternative and all others begin, as far as they have no parts. -/
def commonNodes (others : List (List Node)) : List Node → List Node
  | [] => []
  | node :: nodes =>
    if node.isLeaf && others.all (·.head? = some node) then
      node :: commonNodes (others.map List.tail) nodes
    else []

/-- The parts of a set that an alternative amounts to, if it is one character. -/
def characterItems? : List Node → Option (List ClassItem)
  | [.character code] => some [.single code]
  | [.set false items] => some items
  | _ => none

/-- What a choice among several alternatives amounts to. -/
def choiceNode (alternatives : List (List Node)) : Node :=
  match alternatives.mapM characterItems? with
  | some items => .set false items.flatten.eraseDups
  | none => .ofAlternatives (alternatives.map .ofItems)

/-- The nodes that alternatives stand for. -/
def ofAlternatives : List (List Node) → List Node
  | [] => []
  | [nodes] => nodes
  | nodes :: others =>
    let common := commonNodes others nodes
    common ++ [choiceNode ((nodes :: others).map (·.drop common.length))]

/-! ## The grammar -/

mutual

/-- The nodes of alternatives up to a closing parenthesis or the end. `verbose` tells whether
blanks and comments are passed over, and `nested` whether a group encloses the alternatives. -/
def choiceNodes (verbose nested : Bool) : Nat → Reader (List Node)
  | 0 => return []
  | fuel + 1 => do return ofAlternatives (← alternatives verbose nested true fuel)

/-- Alternatives up to a closing parenthesis or the end; `isFirst` tells whether none of them
stands in front of these. -/
def alternatives (verbose nested isFirst : Bool) : Nat → Reader (List (List Node))
  | 0 => return []
  | fuel + 1 => do
    let first ← sequenceNodes verbose (isFirst && ! nested) [] fuel
    if ← accept '|' then
      let flags := (← get).flags
      let verbose := if nested then verbose else flags.has 'x'
      return first :: (← alternatives verbose nested false fuel)
    else return [first]

/-- A sequence of items up to a bar, a closing parenthesis or the end, behind the items
already read, of which the latest comes first. -/
def sequenceNodes (verbose atStart : Bool) (items : List Item) : Nat → Reader (List Node)
  | 0 => return Item.nodesOf items
  | fuel + 1 => do
    match ← peek with
    | none => return Item.nodesOf items
    | some (.escaped c) =>
      skip
      sequenceNodes verbose atStart (.node (← escape c) :: items) fuel
    | some (.plain c) =>
      if c = '|' || c = ')' then return Item.nodesOf items
      skip
      if verbose && isLayout c then sequenceNodes verbose atStart items fuel
      else if verbose && c = '#' then
        skipLine ((← get).tokens.length + 1)
        sequenceNodes verbose atStart items fuel
      else
        match c with
        | '[' => sequenceNodes verbose atStart (.node (← setNode) :: items) fuel
        | '.' => sequenceNodes verbose atStart (.node .any :: items) fuel
        | '^' => sequenceNodes verbose atStart (.node (.anchor .lineStart) :: items) fuel
        | '$' => sequenceNodes verbose atStart (.node (.anchor .lineEnd) :: items) fuel
        | '(' =>
          let start := (← position) - 1
          match ← groupKind start (atStart && items.isEmpty) with
          | .nothing =>
            let flags := (← get).flags
            let verbose := if atStart && items.isEmpty then flags.has 'x' else verbose
            sequenceNodes verbose atStart items fuel
          | .reference number =>
            sequenceNodes verbose atStart (.node (.backreference number) :: items) fuel
          | kind =>
            let item ← Reader.nested (groupItem verbose start kind fuel)
            sequenceNodes verbose atStart (item :: items) fuel
        | c =>
          let here ← position
          match ← roundsOf? c with
          | none => sequenceNodes verbose atStart (.node (.character c.toNat) :: items) fuel
          | some (least, most) =>
            sequenceNodes verbose atStart (← repeatLast here items least most) fuel

/-- The group of a known sort that began at `start`, up to its closing parenthesis. -/
def groupItem (verbose : Bool) (start : Nat) (kind : GroupKind) : Nat → Reader Item
  | 0 => return .group []
  | fuel + 1 => do
    match kind with
    | .capture name =>
      let number ← openGroup name
      let body := Node.ofItems (← choiceNodes verbose true fuel)
      closeParenthesis start
      closeGroup number body
      return .node (.group number body)
    | .plain on off =>
      let verbose := (verbose || 'x' ∈ on) && 'x' ∉ off
      let nodes ← choiceNodes verbose true fuel
      closeParenthesis start
      if on.isEmpty && off.isEmpty then return .group nodes
      return .node (.flagged on off (.ofItems nodes))
    | .atomic =>
      let nodes ← choiceNodes verbose true fuel
      closeParenthesis start
      return .node (.atomic (.ofItems nodes))
    | .lookAhead negated =>
      let nodes ← choiceNodes verbose true fuel
      closeParenthesis start
      return .node (.look false negated (.ofItems nodes))
    | .lookBehind negated =>
      let outer := (← get).lookBehindFrom
      if outer.isNone then
        modify fun reading => { reading with lookBehindFrom := some reading.groups.length }
      let nodes ← choiceNodes verbose true fuel
      modify fun reading => { reading with lookBehindFrom := outer }
      closeParenthesis start
      return .node (.look true negated (.ofItems nodes))
    | .condition number =>
      let present ← sequenceNodes verbose false [] fuel
      let absent ← if ← accept '|' then
          let absent ← sequenceNodes verbose false [] fuel
          if (← peek) = some (.plain '|') then fail .tooManyBranches 0
          pure absent
        else pure []
      closeParenthesis start
      return .node (.conditional number (.ofItems present) (.ofItems absent))
    | .reference number => return .node (.backreference number)
    | .nothing => return .group []

end

/-! ## The whole -/

/-- The first fault of a tree that shows only when the tree is complete. `isSimple` tells
whether repetitions are forbidden. -/
def faultOf? (groups : Nat → Width) (isSimple : Bool) : Node → Option PatternCause
  | .sequence a b | .either a b | .conditional _ a b =>
    faultOf? groups isSimple a <|> faultOf? groups isSimple b
  | .group _ body | .flagged _ _ body | .atomic body => faultOf? groups isSimple body
  | .repetition mode _ _ body =>
    if isSimple then some (.forbiddenRepetition mode) else faultOf? groups isSimple body
  | .look isBehind _ body =>
    let width := body.width groups
    if isBehind && roundsLimit < width.least then some .farLookBehind
    else if isBehind && width.least ≠ width.most then some .variableLookBehind
    else faultOf? groups isSimple body
  | _ => none

/-- Whether a plan looks further back than it can. -/
def looksTooFar : Plan → Bool
  | .sequence a b | .either a b | .condition _ a b => looksTooFar a || looksTooFar b
  | .look back _ body => groupsLimit < back || looksTooFar body
  | .atomic body | .rounds _ _ _ body => looksTooFar body
  | _ => false

/-- The reading of a whole pattern with the given flags on. -/
def wholePattern (fuel : Nat) : Reader Pattern := do
  begin
  let root := Node.ofItems (← choiceNodes false false fuel)
  let reading ← get
  if 'a' ∈ reading.flags && 'u' ∈ reading.flags then failAnywhere .conflictingClasses
  if ! reading.tokens.isEmpty then fail .unbalanced 0
  match reading.references.find? fun (number, _) => reading.groups.length ≤ number with
  | some (number, here) => throw ⟨.unknownGroup number, some here⟩
  | none => pure ()
  let groups ← groupWidths
  match faultOf? groups (reading.flags.has 't') root with
  | some cause => failAnywhere cause
  | none => pure ()
  let plan := root.plan groups reading.flags
  if looksTooFar plan then failAnywhere .unheldLookBehind
  return {
    plan
    least := (root.width groups).least
    groupCount := reading.groups.length - 1
    names := reading.names }

/-- The pattern that a text is, with the given flags on. -/
def parse (flags : Flags) (text : Text) : Except PatternFault Pattern :=
  let reading := Reading.ofText flags text
  (wholePattern (5 * reading.tokens.length + 5) reading).map (·.1)

end SchemaMigration.Pattern
