import SchemaMigration.Text.Basic

/-!
# Digest

The MD5 digest of a text, which makes names of bounded length out of texts of any length.

## Main Definitions

* `Digest.utf8` - the bytes of a text
* `Digest.padded` - the message words of a sequence of bytes
* `Digest.round` - one of the sixty-four steps on a block
* `Digest.md5` - the digest as hexadecimal digits
-/

namespace SchemaMigration.Digest

/-- The bytes of a text in UTF-8. -/
def utf8 (text : Text) : List UInt8 := (String.ofList text).toUTF8.toList

/-- The word of four bytes of which the lowest comes first. -/
def wordOf : List UInt8 → UInt32
  | [a, b, c, d] =>
    a.toUInt32 ||| (b.toUInt32 <<< 8) ||| (c.toUInt32 <<< 16) ||| (d.toUInt32 <<< 24)
  | _ => 0

/-- The bytes of a number, lowest first. -/
def littleEndian : (count n : Nat) → List UInt8
  | 0, _ => []
  | count + 1, n => UInt8.ofNat (n % 256) :: littleEndian count (n / 256)

/-- The bytes of a message with a one bit, zeros up to eight bytes below a multiple of
sixty-four, and the number of bits. -/
def padded (bytes : List UInt8) : List UInt8 :=
  let zeros := (119 - bytes.length % 64) % 64
  bytes ++ [0x80] ++ List.replicate zeros 0 ++ littleEndian 8 (8 * bytes.length)

/-- The pieces of the given length of a list whose length is a multiple of it; `count` is at
least their number. -/
def chunks {α : Type} (size : Nat) : (count : Nat) → List α → List (List α)
  | 0, _ => []
  | _, [] => []
  | count + 1, items => items.take size :: chunks size count (items.drop size)

/-- The four words that a digest is computed in. -/
structure State where
  a : UInt32
  b : UInt32
  c : UInt32
  d : UInt32

/-- The state in front of the first block. -/
def State.initial : State := ⟨0x67452301, 0xEFCDAB89, 0x98BADCFE, 0x10325476⟩

/-- The sums that the steps add: the leading bits of the sines of 1 to 64. -/
def sines : List UInt32 :=
  [0xd76aa478, 0xe8c7b756, 0x242070db, 0xc1bdceee, 0xf57c0faf, 0x4787c62a, 0xa8304613, 0xfd469501,
   0x698098d8, 0x8b44f7af, 0xffff5bb1, 0x895cd7be, 0x6b901122, 0xfd987193, 0xa679438e, 0x49b40821,
   0xf61e2562, 0xc040b340, 0x265e5a51, 0xe9b6c7aa, 0xd62f105d, 0x02441453, 0xd8a1e681, 0xe7d3fbc8,
   0x21e1cde6, 0xc33707d6, 0xf4d50d87, 0x455a14ed, 0xa9e3e905, 0xfcefa3f8, 0x676f02d9, 0x8d2a4c8a,
   0xfffa3942, 0x8771f681, 0x6d9d6122, 0xfde5380c, 0xa4beea44, 0x4bdecfa9, 0xf6bb4b60, 0xbebfbc70,
   0x289b7ec6, 0xeaa127fa, 0xd4ef3085, 0x04881d05, 0xd9d4d039, 0xe6db99e5, 0x1fa27cf8, 0xc4ac5665,
   0xf4292244, 0x432aff97, 0xab9423a7, 0xfc93a039, 0x655b59c3, 0x8f0ccc92, 0xffeff47d, 0x85845dd1,
   0x6fa87e4f, 0xfe2ce6e0, 0xa3014314, 0x4e0811a1, 0xf7537e82, 0xbd3af235, 0x2ad7d2bb, 0xeb86d391]

/-- The rotations of the steps, four to each quarter, repeated within it. -/
def rotations : List UInt32 := [7, 12, 17, 22, 5, 9, 14, 20, 4, 11, 16, 23, 6, 10, 15, 21]

/-- A word with its bits rotated to the left. -/
def rotateLeft (word amount : UInt32) : UInt32 := (word <<< amount) ||| (word >>> (32 - amount))

/-- The function that mixes three words in the given quarter, and the message word that a
step of the quarter takes. -/
def mix (step : Nat) (s : State) : UInt32 × Nat :=
  match step / 16 with
  | 0 => ((s.b &&& s.c) ||| (~~~s.b &&& s.d), step)
  | 1 => ((s.d &&& s.b) ||| (~~~s.d &&& s.c), 5 * step + 1)
  | 2 => (s.b ^^^ s.c ^^^ s.d, 3 * step + 5)
  | _ => (s.c ^^^ (s.b ||| ~~~s.d), 7 * step)

/-- One step on a block. -/
def round (block : List UInt32) (s : State) (step : Nat) : State :=
  let (mixed, index) := mix step s
  let sum := mixed + s.a + sines.getD step 0 + block.getD (index % 16) 0
  let rotation := rotations.getD (4 * (step / 16) + step % 4) 0
  ⟨s.d, s.b + rotateLeft sum rotation, s.b, s.c⟩

/-- The state behind one more block. -/
def addBlock (s : State) (block : List UInt32) : State :=
  let t := (List.range 64).foldl (round block) s
  ⟨s.a + t.a, s.b + t.b, s.c + t.c, s.d + t.d⟩

/-- A byte as two hexadecimal digits. -/
def hexByte (byte : UInt8) : Text :=
  [Nat.digitChar (byte.toNat / 16), Nat.digitChar (byte.toNat % 16)]

/-- The MD5 digest of a text, as thirty-two hexadecimal digits. -/
def md5 (text : Text) : Text :=
  let bytes := padded (utf8 text)
  let words := (chunks 4 bytes.length bytes).map wordOf
  let s := (chunks 16 words.length words).foldl addBlock .initial
  [s.a, s.b, s.c, s.d].flatMap fun word => (littleEndian 4 word.toNat).flatMap hexByte

end SchemaMigration.Digest
