import SchemaMigration.Text.Basic

/-!
# Numbers in binary

A number with a fraction is held in binary with 53 digits. It is written with the fewest
decimal digits that stand for the same binary number, in plain notation when it lies between
one ten-thousandth and ten to the sixteenth, otherwise with an exponent of at least two
digits.

## Main Definitions

* `Binary` - a number that is not negative, in binary
* `Binary.nearest` - the binary number nearest to a quotient
* `Binary.shortest` - the shortest decimal that stands for a binary number
* `Binary.numeral` - how a binary number is written

## Design Notes

All steps are exact comparisons of natural numbers. A decimal stands for a binary number if
it lies between the midpoints to its neighbours; a midpoint itself goes to the number whose
last digit is even. The mantissa of a number has 53 digits unless the exponent is the least
one, so that a number has one form.
-/

namespace SchemaMigration

open Text

/-- A number that is not negative in binary, the mantissa times a power of two. -/
structure Binary where
  mantissa : Nat
  exponent : Int
  deriving DecidableEq

namespace Binary

/-- The least exponent that a binary number has. -/
def leastExponent : Int := -1074

/-- Nothing. -/
def zero : Binary := ⟨0, leastExponent⟩

/-- A natural number scaled by a power, as numerator and denominator. -/
def scaled (base n : Nat) (exponent : Int) : Nat × Nat :=
  (n * Nat.pow base exponent.toNat, Nat.pow base (-exponent).toNat)

/-- A quotient rounded to a natural number, halves to the even neighbour. -/
def roundQuotient (numerator denominator : Nat) : Nat :=
  let quotient := numerator / denominator
  let rest := 2 * (numerator % denominator)
  if rest < denominator || (rest = denominator && quotient % 2 = 0) then quotient else quotient + 1

/-- The greatest power whose value is at most a quotient, given a power that is off by one at
most. -/
def adjustPower (base numerator denominator : Nat) (guess : Int) : Int :=
  let reaches := fun (power : Int) =>
    let (n, d) := scaled base 1 power
    n * denominator ≤ numerator * d
  if reaches (guess + 1) then guess + 1
  else if reaches guess then guess
  else guess - 1

/-- The binary number nearest to a quotient. One that is rounded up to a power of two gets the
exponent of that. -/
def nearest (numerator denominator : Nat) : Binary :=
  if numerator = 0 then zero
  else
    let power := adjustPower 2 numerator denominator
      ((Nat.log2 numerator : Int) - Nat.log2 denominator)
    let exponent := max (power - 52) leastExponent
    let (n, d) := scaled 2 1 exponent
    let mantissa := roundQuotient (numerator * d) (denominator * n)
    if mantissa = Nat.pow 2 53 then ⟨Nat.pow 2 52, exponent + 1⟩ else ⟨mantissa, exponent⟩

/-- Whether a binary number is too great to be held. -/
def isInfinite (x : Binary) : Bool :=
  let (n, d) := scaled 2 x.mantissa x.exponent
  Nat.pow 2 1024 * d ≤ n

/-- Whether a number of units of ten to a power stands for a binary number. -/
def isReadFrom (x : Binary) (units : Nat) (power : Int) : Bool :=
  let isNarrow := x.mantissa = Nat.pow 2 52 && leastExponent < x.exponent
  let low := if isNarrow then 4 * x.mantissa - 1 else 4 * x.mantissa - 2
  let high := 4 * x.mantissa + 2
  let (un, ud) := scaled 10 units power
  let (ln, ld) := scaled 2 low (x.exponent - 2)
  let (hn, hd) := scaled 2 high (x.exponent - 2)
  let isEven := x.mantissa % 2 = 0
  (ln * ud < un * ld || (isEven && ln * ud = un * ld)) &&
    (un * hd < hn * ud || (isEven && un * hd = hn * ud))

/-- The multiple of ten to a power that stands for a binary number, the nearer of two. -/
def onGrid? (x : Binary) (power : Int) : Option Nat :=
  let (n, d) := scaled 2 x.mantissa x.exponent
  let (gn, gd) := scaled 10 1 power
  let below := (n * gd) / (d * gn)
  match isReadFrom x below power, isReadFrom x (below + 1) power with
  | true, true => some (roundQuotient (n * gd) (d * gn))
  | true, false => some below
  | false, true => some (below + 1)
  | false, false => none

/-- The shortest decimal that stands for a binary number: its digits, and the power of ten
that they are multiplied by. -/
def shortest (x : Binary) : Nat × Int :=
  let (n, d) := scaled 2 x.mantissa x.exponent
  let guess := ((Nat.log2 n : Int) - Nat.log2 d) * 30103 / 100000
  let lead := adjustPower 10 n d guess
  let grids := (List.range 17).map fun (more : Nat) => lead - (more : Int)
  match grids.findSome? fun power => (onGrid? x power).map (·, power) with
  | some found => found
  | none => (roundQuotient n d, 0)

/-- The numeral of positive digits times a power of ten. -/
def plainOrScientific (digits : Nat) (power : Int) : Text :=
  let shown := dropTrailing '0' (ofNat digits)
  let lead : Int := (ofNat digits).length + power - 1
  let zeros := fun (count : Int) => List.replicate count.toNat '0'
  if -4 ≤ lead && lead < 16 then
    if lead < 0 then "0." ++ zeros (-lead - 1) ++ shown
    else
      let count := lead.toNat + 1
      let fraction := shown.drop count
      shown.take count ++ zeros (count - shown.length) ++ "." ++
        (if fraction.isEmpty then ['0'] else fraction)
  else
    let size := ofNat lead.natAbs
    let fraction := shown.drop 1
    shown.take 1 ++ (if fraction.isEmpty then [] else '.' :: fraction) ++ "e" ++
      (if lead < 0 then "-" else "+").toList ++ (if size.length < 2 then '0' :: size else size)

/-- How a number is written. -/
def numeral (x : Binary) : Text :=
  if x.mantissa = 0 then "0.0"
  else
    let (digits, power) := x.shortest
    plainOrScientific digits power

end Binary

end SchemaMigration
