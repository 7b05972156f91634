/-!
# SHA-256

The digest of FIPS 180-4, over lists of bytes and words.

## Main definitions

* `Sha256.pad`: a message filled up to whole blocks
* `Sha256.round`: one round over the working variables and the window of sixteen schedule words
* `Sha256.digest`: the eight words of a message's digest
* `Sha256.fingerprint`: the digest of a text in lower-case hexadecimal digits
-/

namespace RuleActivation.Sha256

/-! ## Words -/

/-- The bits of a word rotated to the right. -/
def rotate (x : UInt32) (count : UInt32) : UInt32 := (x >>> count) ||| (x <<< (32 - count))

/-- The bits of `y` where `x` has ones, those of `z` where it has zeros. -/
def choose (x y z : UInt32) : UInt32 := (x &&& y) ^^^ (~~~x &&& z)

/-- The bits that at least two of three words have. -/
def majority (x y z : UInt32) : UInt32 := (x &&& y) ^^^ (x &&& z) ^^^ (y &&& z)

/-- The mixing function of the first working variable. -/
def bigSigma0 (x : UInt32) : UInt32 := rotate x 2 ^^^ rotate x 13 ^^^ rotate x 22

/-- The mixing function of the fifth working variable. -/
def bigSigma1 (x : UInt32) : UInt32 := rotate x 6 ^^^ rotate x 11 ^^^ rotate x 25

/-- The mixing function of the schedule word fifteen places back. -/
def smallSigma0 (x : UInt32) : UInt32 := rotate x 7 ^^^ rotate x 18 ^^^ (x >>> 3)

/-- The mixing function of the schedule word two places back. -/
def smallSigma1 (x : UInt32) : UInt32 := rotate x 17 ^^^ rotate x 19 ^^^ (x >>> 10)

/-- The constant of each round: the first bits of the fractions of the cube roots of the first
primes. -/
def roundConstants : List UInt32 :=
  [0x428a2f98, 0x71374491, 0xb5c0fbcf, 0xe9b5dba5, 0x3956c25b, 0x59f111f1, 0x923f82a4, 0xab1c5ed5,
   0xd807aa98, 0x12835b01, 0x243185be, 0x550c7dc3, 0x72be5d74, 0x80deb1fe, 0x9bdc06a7, 0xc19bf174,
   0xe49b69c1, 0xefbe4786, 0x0fc19dc6, 0x240ca1cc, 0x2de92c6f, 0x4a7484aa, 0x5cb0a9dc, 0x76f988da,
   0x983e5152, 0xa831c66d, 0xb00327c8, 0xbf597fc7, 0xc6e00bf3, 0xd5a79147, 0x06ca6351, 0x14292967,
   0x27b70a85, 0x2e1b2138, 0x4d2c6dfc, 0x53380d13, 0x650a7354, 0x766a0abb, 0x81c2c92e, 0x92722c85,
   0xa2bfe8a1, 0xa81a664b, 0xc24b8b70, 0xc76c51a3, 0xd192e819, 0xd6990624, 0xf40e3585, 0x106aa070,
   0x19a4c116, 0x1e376c08, 0x2748774c, 0x34b0bcb5, 0x391c0cb3, 0x4ed8aa4a, 0x5b9cca4f, 0x682e6ff3,
   0x748f82ee, 0x78a5636f, 0x84c87814, 0x8cc70208, 0x90befffa, 0xa4506ceb, 0xbef9a3f7, 0xc67178f2]

/-! ## Blocks -/

/-- The eight words that a digest chains from block to block. -/
structure Words where
  a : UInt32
  b : UInt32
  c : UInt32
  d : UInt32
  e : UInt32
  f : UInt32
  g : UInt32
  h : UInt32
  deriving DecidableEq, Repr

namespace Words

/-- The initial words: the first bits of the fractions of the square roots of the first eight
primes. -/
def initial : Words :=
  ⟨0x6a09e667, 0xbb67ae85, 0x3c6ef372, 0xa54ff53a, 0x510e527f, 0x9b05688c, 0x1f83d9ab, 0x5be0cd19⟩

/-- The sums of corresponding words. -/
def add (x y : Words) : Words :=
  ⟨x.a + y.a, x.b + y.b, x.c + y.c, x.d + y.d, x.e + y.e, x.f + y.f, x.g + y.g, x.h + y.h⟩

/-- The words in order. -/
def toList (x : Words) : List UInt32 := [x.a, x.b, x.c, x.d, x.e, x.f, x.g, x.h]

end Words

/-- The schedule word that follows a window of sixteen. -/
def nextWord (window : List UInt32) : UInt32 :=
  smallSigma1 (window.getD 14 0) + window.getD 9 0 + smallSigma0 (window.getD 1 0) +
    window.getD 0 0

/-- One round: the working variables take in the first word of the window, and the window moves
on by one word. -/
def round (state : Words × List UInt32) (constant : UInt32) : Words × List UInt32 :=
  let (w, window) := state
  let t1 := w.h + bigSigma1 w.e + choose w.e w.f w.g + constant + window.getD 0 0
  let t2 := bigSigma0 w.a + majority w.a w.b w.c
  (⟨t1 + t2, w.a, w.b, w.c, w.d + t1, w.e, w.f, w.g⟩, window.drop 1 ++ [nextWord window])

/-- The chained words after a block of sixteen words. -/
def compress (words : Words) (block : List UInt32) : Words :=
  words.add (roundConstants.foldl round (words, block)).1

/-! ## Messages -/

/-- The big-endian words of a list of bytes. -/
def toWords : List UInt8 → List UInt32
  | w :: x :: y :: z :: rest =>
    ((w.toUInt32 <<< 24) ||| (x.toUInt32 <<< 16) ||| (y.toUInt32 <<< 8) ||| z.toUInt32) ::
      toWords rest
  | _ => []

/-- The last `count` bytes of a natural number, the most significant one first. -/
def bytes : (count : Nat) → Nat → List UInt8
  | 0, _ => []
  | count + 1, n => bytes count (n / 256) ++ [UInt8.ofNat n]

/-- A message, a one bit, zeros, and the message's length in bits: a multiple of 64 bytes. -/
def pad (message : List UInt8) : List UInt8 :=
  message ++ 0x80 :: (List.replicate ((119 - message.length % 64) % 64) 0 ++
    bytes 8 (8 * message.length))

/-- The chained words after `count` blocks of a list of words. -/
def chain (words : Words) : (count : Nat) → List UInt32 → Words
  | 0, _ => words
  | count + 1, rest => chain (compress words (rest.take 16)) count (rest.drop 16)

/-- The digest of a message. -/
def digest (message : List UInt8) : Words :=
  let words := toWords (pad message)
  chain .initial (words.length / 16) words

/-- The eight hexadecimal digits of a word. -/
def hexWord (w : UInt32) : List Char :=
  [28, 24, 20, 16, 12, 8, 4, 0].map fun shift => Nat.digitChar ((w.toNat >>> shift) % 16)

/-- The digest of a text's UTF-8 bytes, in 64 hexadecimal digits. -/
def fingerprint (text : String) : String :=
  String.ofList ((digest text.toUTF8.toList).toList.flatMap hexWord)

end RuleActivation.Sha256
