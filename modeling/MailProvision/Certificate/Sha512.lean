/-!
# A digest of 512 bits

The digest of the SHA-2 family with words of 64 bits. The message is padded to whole blocks of 128
bytes; each block is spread over 80 words, which are mixed into eight running words one by one.
-/

namespace MailProvision

namespace Sha512

/-- The first 64 bits after the point of the cube roots of the first 80 primes. -/
def roundConstants : List UInt64 :=
  [
    0x428a2f98d728ae22, 0x7137449123ef65cd, 0xb5c0fbcfec4d3b2f, 0xe9b5dba58189dbbc,
    0x3956c25bf348b538, 0x59f111f1b605d019, 0x923f82a4af194f9b, 0xab1c5ed5da6d8118,
    0xd807aa98a3030242, 0x12835b0145706fbe, 0x243185be4ee4b28c, 0x550c7dc3d5ffb4e2,
    0x72be5d74f27b896f, 0x80deb1fe3b1696b1, 0x9bdc06a725c71235, 0xc19bf174cf692694,
    0xe49b69c19ef14ad2, 0xefbe4786384f25e3, 0x0fc19dc68b8cd5b5, 0x240ca1cc77ac9c65,
    0x2de92c6f592b0275, 0x4a7484aa6ea6e483, 0x5cb0a9dcbd41fbd4, 0x76f988da831153b5,
    0x983e5152ee66dfab, 0xa831c66d2db43210, 0xb00327c898fb213f, 0xbf597fc7beef0ee4,
    0xc6e00bf33da88fc2, 0xd5a79147930aa725, 0x06ca6351e003826f, 0x142929670a0e6e70,
    0x27b70a8546d22ffc, 0x2e1b21385c26c926, 0x4d2c6dfc5ac42aed, 0x53380d139d95b3df,
    0x650a73548baf63de, 0x766a0abb3c77b2a8, 0x81c2c92e47edaee6, 0x92722c851482353b,
    0xa2bfe8a14cf10364, 0xa81a664bbc423001, 0xc24b8b70d0f89791, 0xc76c51a30654be30,
    0xd192e819d6ef5218, 0xd69906245565a910, 0xf40e35855771202a, 0x106aa07032bbd1b8,
    0x19a4c116b8d2d0c8, 0x1e376c085141ab53, 0x2748774cdf8eeb99, 0x34b0bcb5e19b48a8,
    0x391c0cb3c5c95a63, 0x4ed8aa4ae3418acb, 0x5b9cca4f7763e373, 0x682e6ff3d6b2b8a3,
    0x748f82ee5defb2fc, 0x78a5636f43172f60, 0x84c87814a1f0ab72, 0x8cc702081a6439ec,
    0x90befffa23631e28, 0xa4506cebde82bde9, 0xbef9a3f7b2c67915, 0xc67178f2e372532b,
    0xca273eceea26619c, 0xd186b8c721c0c207, 0xeada7dd6cde0eb1e, 0xf57d4f7fee6ed178,
    0x06f067aa72176fba, 0x0a637dc5a2c898a6, 0x113f9804bef90dae, 0x1b710b35131c471b,
    0x28db77f523047d84, 0x32caab7b40c72493, 0x3c9ebe0a15c9bebc, 0x431d67c49c100d4c,
    0x4cc5d4becb3e42b6, 0x597f299cfc657e2a, 0x5fcb6fab3ad6faec, 0x6c44198c4a475817
  ]

/-- The eight running words. -/
structure Registers where
  a : UInt64
  b : UInt64
  c : UInt64
  d : UInt64
  e : UInt64
  f : UInt64
  g : UInt64
  h : UInt64
deriving DecidableEq, Repr

namespace Registers

/-- The first 64 bits after the point of the square roots of the first eight primes. -/
def start : Registers :=
  { a := 0x6a09e667f3bcc908, b := 0xbb67ae8584caa73b
    c := 0x3c6ef372fe94f82b, d := 0xa54ff53a5f1d36f1
    e := 0x510e527fade682d1, f := 0x9b05688c2b3e6c1f
    g := 0x1f83d9abfb41bd6b, h := 0x5be0cd19137e2179 }

/-- Word by word addition. -/
def add (x y : Registers) : Registers :=
  { a := x.a + y.a, b := x.b + y.b, c := x.c + y.c, d := x.d + y.d
    e := x.e + y.e, f := x.f + y.f, g := x.g + y.g, h := x.h + y.h }

/-- The words in order. -/
def toList (x : Registers) : List UInt64 :=
  [x.a, x.b, x.c, x.d, x.e, x.f, x.g, x.h]

end Registers

/-- The word turned right by a number of bits below 64. -/
def rotate (x n : UInt64) : UInt64 :=
  (x >>> n) ||| (x <<< (64 - n))

/-- Mixes a round constant and a word of the message into the registers. -/
def mix (r : Registers) (item : UInt64 × UInt64) : Registers :=
  let (constant, word) := item
  let sum1 := rotate r.e 14 ^^^ rotate r.e 18 ^^^ rotate r.e 41
  let choice := (r.e &&& r.f) ^^^ (~~~r.e &&& r.g)
  let t1 := r.h + sum1 + choice + constant + word
  let sum0 := rotate r.a 28 ^^^ rotate r.a 34 ^^^ rotate r.a 39
  let majority := (r.a &&& r.b) ^^^ (r.a &&& r.c) ^^^ (r.b &&& r.c)
  { a := t1 + (sum0 + majority), b := r.a, c := r.b, d := r.c
    e := r.d + t1, f := r.e, g := r.f, h := r.g }

/-- The words of a block followed by as many further words as asked for, each made of four before
it. -/
def spread : Nat → Array UInt64 → Array UInt64
  | 0, words => words
  | count + 1, words =>
      let word (back : Nat) := words.getD (words.size - back) 0
      let small0 := rotate (word 15) 1 ^^^ rotate (word 15) 8 ^^^ (word 15 >>> 7)
      let small1 := rotate (word 2) 19 ^^^ rotate (word 2) 61 ^^^ (word 2 >>> 6)
      spread count (words.push (word 16 + small0 + word 7 + small1))

/-- The registers after a block of sixteen words. -/
def compress (r : Registers) (block : List UInt64) : Registers :=
  let words := (spread 64 block.toArray).toList
  r.add ((roundConstants.zip words).foldl mix r)

/-- Eight bytes as a word, the greatest byte first. -/
def wordOfBytes (bytes : List UInt8) : UInt64 :=
  bytes.foldl (fun word byte => (word <<< 8) ||| byte.toUInt64) 0

/-- The bytes of a word, the greatest first. -/
def bytesOfWord (word : UInt64) : List UInt8 :=
  [56, 48, 40, 32, 24, 16, 8, 0].map fun shift : UInt64 => (word >>> shift).toUInt8

/-- The message with a one bit, zeros up to a whole number of blocks, and its length in bits. -/
def pad (message : List UInt8) : List UInt8 :=
  let length := message.length
  let zeros := (239 - length % 128) % 128
  let bits := length * 8
  message ++ 0x80 :: (List.replicate zeros 0 ++
    bytesOfWord (UInt64.ofNat (bits / Nat.pow 2 64)) ++ bytesOfWord (UInt64.ofNat bits))

/-- Cuts a list into pieces of a positive length; at most `limit` of them. -/
def pieces {Item : Type} (size : Nat) : Nat → List Item → List (List Item)
  | 0, _ => []
  | limit + 1, items =>
      if items.isEmpty then [] else items.take size :: pieces size limit (items.drop size)

/-- The digest of a message. -/
def digest (message : List UInt8) : List UInt8 :=
  let padded := pad message
  let words := (pieces 8 padded.length padded).map wordOfBytes
  let blocks := pieces 16 words.length words
  (blocks.foldl compress .start).toList.flatMap bytesOfWord

end Sha512

end MailProvision
