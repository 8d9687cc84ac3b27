import SchemaMigration.Config.Quantity
import SchemaMigration.Config.Timestamp
import SchemaMigration.Text.LetterCase
import SchemaMigration.Text.Quoted
import SchemaMigration.Yaml.Cursor

/-!
# Numerals and dates of YAML

A scalar may spell a number or a date. Whole numbers are written in base two, eight, ten or
sixteen, or as groups of base sixty between colons; underscores between digits do not count.

## Main Definitions

* `isWholeNumeral`, `isFractionNumeral`, `isTimestamp` - what a plain scalar looks like
* `wholeValue` - the whole number that a scalar spells
* `fractionValue` - the number with a fraction that a scalar spells
* `timestampValue` - the date or time that a scalar spells

## Design Notes

A scalar that is said to be a number is read more freely than one that only looks like one:
there may be blanks around it, digits of any script, and signs within its groups.
-/

namespace SchemaMigration.Yaml

open Text

/-! ## What scalars look like -/

/-- Whether a character is a digit or separates digits. -/
def isDigitOrSeparator (c : Char) : Bool := c.isDigit || c == '_'

/-- Whether a text is a group of a numeral in base sixty. -/
def isSexagesimalGroup : Text → Bool
  | [c] => c.isDigit
  | [c, d] => '0' ≤ c && c ≤ '5' && d.isDigit
  | _ => false

/-- Whether a scalar looks like a whole number. -/
def isWholeNumeral (text : Text) : Bool :=
  let allOf := fun (digits : Text) (accepts : Char → Bool) =>
    digits.all fun c => accepts c || c == '_'
  match (splitSign text).2 with
  | [] => false
  | '0' :: 'b' :: c :: digits => allOf (c :: digits) fun c => c == '0' || c == '1'
  | '0' :: 'x' :: c :: digits => allOf (c :: digits) fun c => (hexadecimalValue? c).isSome
  | '0' :: digits => allOf digits fun c => '0' ≤ c && c ≤ '7'
  | c :: rest =>
    match splitWhere (· == ':') (c :: rest) with
    | first :: groups =>
      c.isDigit && first.all isDigitOrSeparator && groups.all isSexagesimalGroup
    | [] => false

/-- Whether a text is an exponent with a sign, or empty. -/
def isExponent : Text → Bool
  | [] => true
  | c :: sign :: digits =>
    (c == 'e' || c == 'E') && (sign == '-' || sign == '+') && ! digits.isEmpty &&
      digits.all Char.isDigit
  | _ => false

/-- Whether a scalar looks like a number with a fraction. -/
def isFractionNumeral (text : Text) : Bool :=
  let body := (splitSign text).2
  if body ∈ [".inf".toList, ".Inf".toList, ".INF".toList] then true
  else if text ∈ [".nan".toList, ".NaN".toList, ".NAN".toList] then true
  else
    let whole := body.takeWhile fun c => isDigitOrSeparator c || c == ':'
    match body.dropWhile fun c => isDigitOrSeparator c || c == ':' with
    | '.' :: rest =>
      let digits := rest.takeWhile isDigitOrSeparator
      let exponent := rest.dropWhile isDigitOrSeparator
      match splitWhere (· == ':') whole with
      | first :: groups =>
        let beginsWell :=
          if whole.isEmpty then body == text && digits.head?.any Char.isDigit
          else whole.head?.any Char.isDigit
        beginsWell && isExponent exponent && first.all isDigitOrSeparator &&
          groups.all isSexagesimalGroup && (groups.isEmpty || exponent.isEmpty)
      | [] => false
    | _ => false

/-! ## Numbers -/

/-- The digits of a numeral without what separates them. -/
def withoutSeparators (text : Text) : Text := text.filter (· != '_')

/-- A numeral without its sign, and whether that is a minus sign; a numeral is not empty. -/
def signed (text : Text) : Except Fault (Bool × Text) :=
  if text.isEmpty then .error .emptyNumeral else .ok (splitSign text)

/-- The number of groups in base sixty, the last one given first. -/
def sexagesimal : List Int → Int
  | [] => 0
  | group :: groups => group + 60 * sexagesimal groups

/-- The number that a numeral in a base stands for. -/
def numeralValue (base : Nat) (text : Text) : Except Fault Int :=
  match wholeNumber base text with
  | .ok value => .ok value
  | .error .malformed =>
    .error (.range ("invalid literal for int() with base " ++ ofNat base ++ ": " ++
      (quoted text).take 200))
  | .error (.tooLong count) => .error (.range (tooManyDigits (some count)))

/-- The size of a whole number without its sign. -/
def wholeSize (text : Text) : Except Fault Int :=
  if text = "0".toList then .ok 0
  else match after? "0b" text, after? "0x" text with
    | some digits, _ => numeralValue 2 digits
    | none, some digits => numeralValue 16 digits
    | none, none =>
      match text with
      | [] => .error .emptyNumeral
      | '0' :: _ => numeralValue 8 text
      | _ =>
        if ':' ∈ text then do
          let groups ← (splitWhere (· == ':') text).mapM (numeralValue 10)
          return sexagesimal groups.reverse
        else numeralValue 10 text

/-- The whole number that a scalar spells. -/
def wholeValue (text : Text) : Except Fault Int := do
  let (isNegative, body) ← signed (withoutSeparators text)
  let size ← wholeSize body
  return if isNegative then -size else size

/-- The number that a part of a numeral with a fraction spells. -/
def partValue (origin : Nat) (text : Text) : Except Fault Quantity :=
  match Quantity.ofText? origin text with
  | some value => .ok value
  | none => .error (.range ("could not convert string to float: " ++ quoted text))

/-- A number with the groups of a numeral in base sixty added, the last group first; `place`
is the number of groups in front of them. -/
def addGroups (sum : Quantity) : (place : Nat) → List Quantity → Except Fault Quantity
  | _, [] => .ok sum
  | place, group :: groups =>
    let factor := Binary.nearest (Nat.pow 60 place) 1
    if factor.isInfinite then .error .overflow
    else addGroups (sum.add (group.times factor)) (place + 1) groups

/-- The number with a fraction that a scalar spells; an undefined one that is not written as
such gets the given origin. -/
def fractionValue (origin : Nat) (text : Text) : Except Fault Quantity := do
  let (isNegative, body) ← signed (lower (withoutSeparators text))
  let size ←
    if body = ".inf".toList then pure (Quantity.infinite false)
    else if body = ".nan".toList then pure (Quantity.undefined 0)
    else if ':' ∈ body then do
      let groups ← (splitWhere (· == ':') body).mapM (partValue origin)
      addGroups (.finite false .zero) 0 groups.reverse
    else partValue origin body
  return if isNegative then size.negate else size

/-! ## Dates -/

/-- A number of at least and at most so many digits, and what follows it. -/
def someDigits? (least most : Nat) (text : Text) : Option (Nat × Text) :=
  let digits := (text.take most).takeWhile Char.isDigit
  if digits.length < least then none
  else some (digitsNumber 10 (digits.filterMap digitValue?), text.drop digits.length)

/-- The first six digits of a fraction of a second, with zeros for those that are missing. -/
def microseconds (digits : Text) : Nat :=
  let shown := digits.take 6 ++ List.replicate (6 - digits.length) '0'
  digitsNumber 10 (shown.filterMap digitValue?)

/-- The distance from universal time in minutes; none if it is not given. -/
def offset? (text : Text) : Option (Option Int) :=
  match text.dropWhile fun c => c == ' ' || c == '\t' with
  | [] => if text.isEmpty then some none else none
  | ['Z'] => some (some 0)
  | sign :: rest => do
    if sign ≠ '-' && sign ≠ '+' then none
    let (hours, rest) ← someDigits? 1 2 rest
    let minutes ← match rest with
      | [] => some 0
      | ':' :: rest => (someDigits? 2 2 rest).bind fun (minutes, rest) =>
        if rest.isEmpty then some minutes else none
      | _ => none
    let size : Int := 60 * hours + minutes
    return some (if sign = '-' then -size else size)

/-- The time of day behind a date: a letter or blanks, the time, and its distance from
universal time. -/
def timeOfDay? (text : Text) : Option TimeOfDay := do
  let clock ← match text with
    | 'T' :: rest | 't' :: rest => some rest
    | _ =>
      let rest := text.dropWhile fun c => c == ' ' || c == '\t'
      if rest.length < text.length then some rest else none
  let (hour, rest) ← someDigits? 1 2 clock
  let (minute, rest) ← (after? ":" rest).bind (someDigits? 2 2)
  let (second, rest) ← (after? ":" rest).bind (someDigits? 2 2)
  let (fraction, rest) : Text × Text := match rest with
    | '.' :: rest => (rest.takeWhile Char.isDigit, rest.dropWhile Char.isDigit)
    | _ => ([], rest)
  let offset ← offset? rest
  return { hour, minute, second, microsecond := microseconds fraction, offset }

/-- The date, perhaps with a time, that a text spells. -/
def timestamp? (text : Text) : Option Timestamp := do
  let (year, rest) ← someDigits? 4 4 text
  let (month, afterMonth) ← (after? "-" rest).bind (someDigits? 1 2)
  let (day, rest) ← (after? "-" afterMonth).bind (someDigits? 1 2)
  if rest.isEmpty then return { year, month, day, time := none }
  else
    let time ← timeOfDay? rest
    return { year, month, day, time := some time }

/-- Whether a scalar looks like a date, perhaps with a time. A date alone has all its
digits. -/
def isTimestamp (text : Text) : Bool :=
  (timestamp? text).any fun stamp => stamp.time.isSome || text.length = 10

/-- A text without the line break that may end it. -/
def withoutFinalBreak (text : Text) : Text :=
  if text.getLast? = some '\n' then text.dropLast else text

/-- The date, perhaps with a time, that a scalar spells. -/
def timestampValue (text : Text) : Except Fault Timestamp :=
  match timestamp? (withoutFinalBreak text) with
  | none => .error .noDate
  | some stamp =>
    match stamp.fault? with
    | some message => .error (.range message)
    | none => .ok stamp

end SchemaMigration.Yaml
