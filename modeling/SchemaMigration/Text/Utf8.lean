import SchemaMigration.Text.Basic

/-!
# Text from octets

Files hold their text in UTF-8. A sequence of octets that encodes no text is refused with
the place and the extent of its first malformed part: the longest beginning of an encoded
character, or a single octet that begins none.

## Main Definitions

* `Utf8Fault` - the first malformed part of a sequence of octets
* `Text.ofUtf8` - the text that a sequence of octets encodes
* `Text.toUtf8` - the octets that encode a text
* `Text.ofFile` - the same with every kind of newline as a line feed
-/

namespace SchemaMigration

open Text

/-- Why octets encode no character. -/
inductive Utf8Cause
  | badStart
  | badContinuation
  | cutOff
  deriving DecidableEq

/-- The cause in words. -/
def Utf8Cause.message : Utf8Cause → Text
  | badStart => "invalid start byte"
  | badContinuation => "invalid continuation byte"
  | cutOff => "unexpected end of data"

/-- The first malformed part of a sequence of octets. -/
structure Utf8Fault where
  cause : Utf8Cause
  position : Nat
  /-- The number of octets of the malformed part. -/
  extent : Nat
  /-- The first of them. -/
  octet : Nat
  deriving DecidableEq

/-- What went wrong, in words. -/
def Utf8Fault.message (fault : Utf8Fault) : Text :=
  let what : Text :=
    if fault.extent = 1 then
      let digits := Nat.toDigits 16 fault.octet
      "byte 0x" ++ (if digits.length < 2 then '0' :: digits else digits) ++ " in position " ++
        ofNat fault.position
    else "bytes in position " ++ ofNat fault.position ++ "-".toList ++
      ofNat (fault.position + fault.extent - 1)
  "'utf-8' codec can't decode " ++ what ++ ": " ++ fault.cause.message

namespace Text

/-- Whether an octet continues an encoded character. -/
def isContinuation (octet : Nat) : Bool := 0x80 ≤ octet && octet < 0xC0

/-- Whether an octet may be the second of a character that begins with the first. -/
def isSecondOctet (first second : Nat) : Bool :=
  isContinuation second &&
    (first != 0xE0 || 0xA0 ≤ second) && (first != 0xED || second < 0xA0) &&
    (first != 0xF0 || 0x90 ≤ second) && (first != 0xF4 || second < 0x90)

/-- The number of octets of a character that begins with the given one; zero if none does. -/
def octetCount (first : Nat) : Nat :=
  if first < 0x80 then 1
  else if first < 0xC2 then 0
  else if first < 0xE0 then 2
  else if first < 0xF0 then 3
  else if first < 0xF5 then 4
  else 0

/-- The number of leading octets that continue a character which begins with `first`. -/
def continuationCount (first : Nat) : List Nat → Nat
  | [] => 0
  | second :: octets =>
    if isSecondOctet first second then 1 + (octets.takeWhile isContinuation).length else 0

/-- The code of an encoded character. -/
def decodedCode (first : Nat) (continuation : List Nat) : Nat :=
  let lead := match continuation.length with
    | 0 => first
    | 1 => first % 32
    | 2 => first % 16
    | _ => first % 8
  continuation.foldl (fun code octet => 64 * code + octet % 64) lead

/-- The text that octets encode from a position on. -/
def ofUtf8From : Nat → (position : Nat) → List Nat → Except Utf8Fault Text
  | _, _, [] => .ok []
  | 0, _, _ => .ok []
  | fuel + 1, position, first :: octets =>
    let needed := octetCount first - 1
    let continuation := octets.take needed
    let found := continuationCount first continuation
    if octetCount first = 0 then .error ⟨.badStart, position, 1, first⟩
    else if found < needed then
      let cause := if found = octets.length then .cutOff else .badContinuation
      .error ⟨cause, position, found + 1, first⟩
    else do
      let text ← ofUtf8From fuel (position + needed + 1) (octets.drop needed)
      return Char.ofNat (decodedCode first continuation) :: text

/-- The text that a sequence of octets encodes. -/
def ofUtf8 (octets : List Nat) : Except Utf8Fault Text := ofUtf8From octets.length 0 octets

/-- The octets that encode a character. -/
def octetsOf (c : Char) : List Nat :=
  let code := c.toNat
  if code < 0x80 then [code]
  else if code < 0x800 then [0xC0 + code / 64, 0x80 + code % 64]
  else if code < 0x10000 then [0xE0 + code / 4096, 0x80 + code / 64 % 64, 0x80 + code % 64]
  else [0xF0 + code / 262144, 0x80 + code / 4096 % 64, 0x80 + code / 64 % 64, 0x80 + code % 64]

/-- The octets that encode a text. -/
def toUtf8 (text : Text) : List Nat := text.flatMap octetsOf

/-- Every carriage return, with the line feed behind it if there is one, as a line feed. -/
def normaliseNewlines (text : Text) : Text :=
  (unifyNewlines text).map fun c => if c = '\r' then '\n' else c

/-- The text of a file. -/
def ofFile (octets : List Nat) : Except Utf8Fault Text := (ofUtf8 octets).map normaliseNewlines

end Text

end SchemaMigration
