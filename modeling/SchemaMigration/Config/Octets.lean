import SchemaMigration.Text.Basic

/-!
# Octets of a configuration

A configuration may hold octets, which are written in base 64: four characters of an alphabet
for three octets, filled up with equals signs.

## Main Definitions

* `base64Values` - the values of the characters of a text in base 64
* `octetsOfBase64?` - the octets that a text in base 64 stands for
* `describeOctets` - octets as messages show them

## Design Notes

Characters outside of the alphabet are passed over, and nothing is read behind the equals
signs that fill up a group. A group may lack nothing but equals signs behind a full one.
-/

namespace SchemaMigration

open Text

/-- The value of a character of the alphabet. -/
def base64Value? (c : Char) : Option Nat :=
  if 'A' ≤ c && c ≤ 'Z' then some (c.toNat - 65)
  else if 'a' ≤ c && c ≤ 'z' then some (c.toNat - 71)
  else if '0' ≤ c && c ≤ '9' then some (c.toNat + 4)
  else if c = '+' then some 62
  else if c = '/' then some 63
  else none

/-- The values of the characters in front of the end, and whether equals signs end the text.
`count` is how many values the open group has, `fill` how many equals signs stand directly in
front. -/
def base64Values : (count fill : Nat) → Text → List Nat × Bool
  | _, _, [] => ([], false)
  | count, fill, c :: text =>
    if c = '=' then
      if 2 ≤ count && 4 ≤ count + fill + 1 then ([], true)
      else base64Values count (if 2 ≤ count then fill + 1 else fill) text
    else match base64Value? c with
      | none => base64Values count fill text
      | some value =>
        let (values, isFilled) := base64Values ((count + 1) % 4) 0 text
        (value :: values, isFilled)

/-- The octets that values of six bits stand for; the last group may be shorter. -/
def octetsOfValues : List Nat → List Nat
  | a :: b :: c :: d :: values =>
    [4 * a + b / 16, 16 * (b % 16) + c / 4, 64 * (c % 4) + d] ++ octetsOfValues values
  | [a, b, c] => [4 * a + b / 16, 16 * (b % 16) + c / 4]
  | [a, b] => [4 * a + b / 16]
  | _ => []

/-- The octets that a text in base 64 stands for. -/
def octetsOfBase64? (text : Text) : Option (List Nat) :=
  if text.any fun c => 0x7f < c.toNat then none
  else
    let (values, isFilled) := base64Values 0 0 text
    if isFilled || values.length % 4 = 0 then some (octetsOfValues values) else none

/-- An octet within the given quotes. -/
def describeOctet (quote : Char) (octet : Nat) : Text :=
  let c := Char.ofNat octet
  if c = quote || c = '\\' then ['\\', c]
  else if c = '\n' then "\\n"
  else if c = '\r' then "\\r"
  else if c = '\t' then "\\t"
  else if 0x20 ≤ octet && octet < 0x7f then [c]
  else "\\x".toList ++ [Nat.digitChar (octet / 16), Nat.digitChar (octet % 16)]

/-- Octets as messages show them. -/
def describeOctets (octets : List Nat) : Text :=
  let quote := if 0x27 ∈ octets ∧ 0x22 ∉ octets then '\x22' else '\x27'
  'b' :: quote :: octets.flatMap (describeOctet quote) ++ [quote]

end SchemaMigration
