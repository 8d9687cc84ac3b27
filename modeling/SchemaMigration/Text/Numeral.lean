import SchemaMigration.Text.Digit

/-!
# Numerals of whole numbers

A person may write a whole number with blanks at its ends, a sign, and single underscores
between its digits. The digits may be those of any script. A numeral in base two, eight or
sixteen may begin with a zero and the letter of its base.

## Main Definitions

* `Text.wholeNumber` - the number that a numeral in some base stands for
* `Text.NumeralFault`, `Text.tooManyDigits` - why a text stands for no number
* `Text.integer?` - the number of a decimal numeral
* `Text.decimalNumeral?` - the decimal numeral of a number, unless it is too long

## Design Notes

A decimal numeral has at most `mostDigits` digits, whether it is read or written, since the
time that either takes grows with the square of their number. There is no such limit in the
bases that are powers of two.
-/

namespace SchemaMigration.Text

/-- The greatest number of digits of a decimal numeral. -/
def mostDigits : Nat := 4300

/-- The words for a decimal numeral with too many digits, of which the number is given if the
numeral was read. -/
def tooManyDigits (count : Option Nat) : Text :=
  let found : Text := match count with
    | some count => ": value has " ++ ofNat count ++ " digits"
    | none => []
  "Exceeds the limit (" ++ ofNat mostDigits ++ " digits) for integer string conversion" ++ found ++
    "; use sys.set_int_max_str_digits() to increase the limit"

/-- Why a text stands for no whole number. -/
inductive NumeralFault
  | malformed
  /-- The numeral has the given number of digits, which is too great. -/
  | tooLong (count : Nat)
  deriving DecidableEq

/-- Whether a blank may stand at the ends of a numeral; separators of data may not. -/
def isNumeralBlank (c : Char) : Bool := isBlank c && ! ('\x1c' ≤ c && c ≤ '\x1f')

/-- A text without the blanks that may stand at the ends of a numeral. -/
def trimNumeral (text : Text) : Text :=
  ((text.dropWhile isNumeralBlank).reverse.dropWhile isNumeralBlank).reverse

/-- The value of a character as a digit, where letters continue the digits. -/
def digitOrLetterValue? (c : Char) : Option Nat :=
  match digitValue? c with
  | some value => some value
  | none =>
    if 'a' ≤ c && c ≤ 'z' then some (c.toNat - 87)
    else if 'A' ≤ c && c ≤ 'Z' then some (c.toNat - 55)
    else none

/-- The value of a digit in a base. -/
def digitIn? (base : Nat) (c : Char) : Option Nat :=
  (digitOrLetterValue? c).filter (· < base)

/-- The digits in a base at the beginning of a text, single underscores between them, and the
rest; none if there is no digit or an underscore separates none. -/
def digitsFrom? (base : Nat) : Text → Option (List Nat × Text)
  | [] => none
  | [c] => (digitIn? base c).map fun digit => ([digit], [])
  | c :: '_' :: text => do
    let digit ← digitIn? base c
    let (digits, rest) ← digitsFrom? base text
    return (digit :: digits, rest)
  | c :: next :: text => do
    let digit ← digitIn? base c
    let (digits, rest) := (digitsFrom? base (next :: text)).getD ([], next :: text)
    return (digit :: digits, rest)

/-- The number that digits of a base stand for. -/
def digitsNumber (base : Nat) (digits : List Nat) : Nat :=
  digits.foldl (fun number digit => base * number + digit) 0

/-- A text without the sign in front of it, and whether that is a minus sign. -/
def splitSign : Text → Bool × Text
  | '-' :: text => (true, text)
  | '+' :: text => (false, text)
  | text => (false, text)

/-- A text without the mark of a base in front of it. -/
def dropBaseMark (base : Nat) (text : Text) : Text :=
  let behind := fun (rest : Text) => match rest with
    | '_' :: digits => digits
    | digits => digits
  match text with
  | '0' :: c :: rest =>
    if (base = 2 && (c == 'b' || c == 'B')) || (base = 8 && (c == 'o' || c == 'O')) ||
        (base = 16 && (c == 'x' || c == 'X')) then behind rest
    else text
  | _ => text

/-- The number that a numeral in the given base stands for. -/
def wholeNumber (base : Nat) (text : Text) : Except NumeralFault Int :=
  let (isNegative, unsigned) := splitSign (trimNumeral text)
  match digitsFrom? base (dropBaseMark base unsigned) with
  | none => .error .malformed
  | some (digits, rest) =>
    if base = 10 && mostDigits < digits.length then .error (.tooLong digits.length)
    else if ! rest.isEmpty then .error .malformed
    else
      let size := digitsNumber base digits
      .ok (if isNegative then -(size : Int) else size)

/-- The number of a decimal numeral. -/
def integer? (text : Text) : Option Int := (wholeNumber 10 text).toOption

/-- The decimal numeral of a whole number, unless it has too many digits. -/
def decimalNumeral? (number : Int) : Option Text :=
  if number.natAbs < Nat.pow 10 mostDigits then some (ofInt number) else none

end SchemaMigration.Text
