import SchemaMigration.Config.Binary
import SchemaMigration.Text.Numeral

/-!
# Numbers with a fraction

A number with a fraction is a binary number with a sign, or infinite, or undefined. Sums and
products are rounded to the nearest binary number.

## Main Definitions

* `Quantity` - a number with a fraction
* `Quantity.ofText?` - the number that a text spells
* `Quantity.add`, `Quantity.times` - sums, and products with whole numbers
* `Quantity.numeral` - how a number is written
* `Scaled` - a whole number times a power of two, for exact comparisons

## Design Notes

An undefined number equals only itself, so it carries where it came from.
-/

namespace SchemaMigration

open Text

/-- A number with a fraction. -/
inductive Quantity
  /-- No number; two of these are the same if they have the same origin. -/
  | undefined (origin : Nat)
  | infinite (isNegative : Bool)
  | finite (isNegative : Bool) (size : Binary)
  deriving DecidableEq

/-- A whole number times a power of two. -/
structure Scaled where
  mantissa : Int
  exponent : Int
  deriving DecidableEq

namespace Scaled

/-- The mantissa that a number has with a smaller exponent. -/
def mantissaAt (exponent : Int) (x : Scaled) : Int :=
  x.mantissa * (Nat.pow 2 (x.exponent - exponent).toNat : Nat)

/-- Whether two numbers are equal. -/
def same (x y : Scaled) : Bool :=
  let exponent := min x.exponent y.exponent
  x.mantissaAt exponent == y.mantissaAt exponent

/-- The prime to which numbers are reduced. -/
def modulus : Nat := 2305843009213693951

/-- The residue of a number, with its sign. It is the same for all ways to write a number,
since 61 factors of two have the residue one. -/
def residue (x : Scaled) : Int :=
  let size := x.mantissa.natAbs * Nat.pow 2 (x.exponent.emod 61).toNat % modulus
  if 0 ≤ x.mantissa then size else if size = 1 then -2 else -(size : Int)

end Scaled

namespace Quantity

/-- The number nearest to a quotient, infinite if that is too great to be held. -/
def ofQuotient (isNegative : Bool) (numerator denominator : Nat) : Quantity :=
  let size := Binary.nearest numerator denominator
  if size.isInfinite then infinite isNegative else finite isNegative size

/-- The number nearest to a scaled one; of nothing, the sign is given. -/
def ofScaled (zeroIsNegative : Bool) (x : Scaled) : Quantity :=
  let (n, d) := Binary.scaled 2 x.mantissa.natAbs x.exponent
  ofQuotient (if x.mantissa = 0 then zeroIsNegative else x.mantissa < 0) n d

/-- The exact value of a number, if it has one. -/
def scaled? : Quantity → Option Scaled
  | finite isNegative size =>
    some ⟨if isNegative then -(size.mantissa : Int) else size.mantissa, size.exponent⟩
  | _ => none

/-- Whether a number is nothing, of either sign. -/
def isZero : Quantity → Bool
  | finite _ size => size.mantissa = 0
  | _ => false

/-- Whether a number counts as negative. -/
def isNegative : Quantity → Bool
  | undefined _ => false
  | infinite isNegative | finite isNegative _ => isNegative

/-- The number of the opposite sign. -/
def negate : Quantity → Quantity
  | undefined origin => undefined origin
  | infinite isNegative => infinite (! isNegative)
  | finite isNegative size => finite (! isNegative) size

/-- The sum of two numbers. -/
def add (x y : Quantity) : Quantity :=
  match x, y with
  | undefined origin, _ | _, undefined origin => undefined origin
  | infinite a, infinite b => if a = b then infinite a else undefined 0
  | infinite a, finite _ _ | finite _ _, infinite a => infinite a
  | finite a _, finite b _ =>
    match x.scaled?, y.scaled? with
    | some m, some n =>
      let exponent := min m.exponent n.exponent
      ofScaled (a && b) ⟨m.mantissaAt exponent + n.mantissaAt exponent, exponent⟩
    | _, _ => x

/-- The product with a binary number that is not nothing. -/
def times (factor : Binary) : Quantity → Quantity
  | undefined origin => undefined origin
  | infinite isNegative => infinite isNegative
  | finite isNegative size =>
    let (n, d) :=
      Binary.scaled 2 (size.mantissa * factor.mantissa) (size.exponent + factor.exponent)
    ofQuotient isNegative n d

/-- How a number is written. -/
def numeral : Quantity → Text
  | undefined _ => "nan"
  | infinite isNegative => if isNegative then "-inf" else "inf"
  | finite isNegative size => if isNegative then '-' :: size.numeral else size.numeral

/-! ## Reading -/

/-- The number of digits times a power of ten. Exponents beyond all numbers are cut off before
the power is formed. -/
def ofDecimal (isNegative : Bool) (digits : Nat) (exponent : Int) : Quantity :=
  let lead : Int := (ofNat digits).length + exponent
  if digits = 0 || lead < -400 then finite isNegative .zero
  else if 400 < lead then infinite isNegative
  else
    let (n, d) := Binary.scaled 10 digits exponent
    ofQuotient isNegative n d

/-- The power of ten at the end of a numeral; none is the power zero. -/
def exponent? : Text → Option Int
  | [] => some 0
  | c :: text =>
    let (isNegative, digits) := splitSign text
    if (c == 'e' || c == 'E') && ! digits.isEmpty && digits.all Char.isDigit then
      let size := digitsNumber 10 (digits.filterMap digitValue?)
      some (if isNegative then -(size : Int) else size)
    else none

/-- The number of a numeral without a sign: digits, perhaps with a point among them, and
perhaps an exponent; or one of the words for an infinite and an undefined number. -/
def ofUnsigned? (origin : Nat) (isNegative : Bool) (text : Text) : Option Quantity :=
  let word := text.map Char.toLower
  if word = "inf".toList || word = "infinity".toList then some (infinite isNegative)
  else if word = "nan".toList then some (undefined origin)
  else do
    let whole := text.takeWhile Char.isDigit
    let (fraction, rest) : Text × Text := match text.drop whole.length with
      | '.' :: rest => (rest.takeWhile Char.isDigit, rest.dropWhile Char.isDigit)
      | rest => ([], rest)
    let exponent ← exponent? rest
    if whole.isEmpty && fraction.isEmpty then none
    let digits := digitsNumber 10 ((whole ++ fraction).filterMap digitValue?)
    return ofDecimal isNegative digits (exponent - fraction.length)

/-- The number that a text spells, with blanks at its ends and digits of any script; an
undefined one gets the given origin. -/
def ofText? (origin : Nat) (text : Text) : Option Quantity :=
  let unified := (trimNumeral text).map fun c =>
    match digitValue? c with
    | some value => Nat.digitChar value
    | none => c
  let (isNegative, unsigned) := splitSign unified
  ofUnsigned? origin isNegative unsigned

end Quantity

end SchemaMigration
