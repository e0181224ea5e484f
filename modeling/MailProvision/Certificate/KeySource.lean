import MailProvision.Certificate.Key

/-!
# Making keys

A source makes keys from a secret seed, a different one each time. Numbers are drawn from digests of
the seed; the primes of a key are the first ones at or above two numbers that were drawn.

A number counts as prime if no small prime divides it and it passes the strong test for several
bases. A composite number that was drawn at random passes with negligible probability.
-/

namespace MailProvision

namespace Prime

/-- The primes below 1000. -/
def smallPrimes : List Nat :=
  (List.range 1000).filter fun n => 2 ≤ n && (List.range n).all fun d => d < 2 || n % d ≠ 0

/-- The bases of the strong test. -/
def bases : List Nat :=
  smallPrimes.take 16

/-- The greatest power of two that divides a positive number, at most `limit`, and the quotient. -/
def splitTwos : Nat → Nat → Nat × Nat
  | 0, n => (0, n)
  | limit + 1, n =>
      if n % 2 = 0 then
        let (count, odd) := splitTwos limit (n / 2)
        (count + 1, odd)
      else (0, n)

/-- Whether a remainder, or one of the given number of squares after it, is minus one. -/
def reachesMinusOne (n : Nat) : Nat → Nat → Bool
  | 0, _ => false
  | squares + 1, x => x = n - 1 || reachesMinusOne n squares (x * x % n)

/-- The strong test for one base. -/
def passes (n twos odd base : Nat) : Bool :=
  let x := powerMod n base odd
  x = 1 || reachesMinusOne n twos x

/-- Whether a number counts as prime. -/
def isLikely (n : Nat) : Bool :=
  if n < 1000 then smallPrimes.contains n
  else
    smallPrimes.all (fun p => n % p ≠ 0) &&
      let (twos, odd) := splitTwos (Nat.log2 n + 1) (n - 1)
      bases.all (passes n twos odd)

/-- The first number that is suitable among the given one and a limited number of steps of two above
it; the last one if none is. -/
def firstFrom (suitable : Nat → Bool) : Nat → Nat → Nat
  | 0, n => n
  | limit + 1, n => if suitable n then n else firstFrom suitable limit (n + 2)

end Prime

/-- A source of keys. -/
structure KeySource where
  seed : List UInt8
  /-- How many keys were made. -/
  drawn : Nat := 0
deriving DecidableEq, Repr

namespace KeySource

/-- The public exponent of all keys. -/
def publicExponent : Nat := 65537

/-- Bytes that follow from the seed, the number of the key and a purpose. -/
def bytes (source : KeySource) (purpose : UInt8) (blocks : Nat) : List UInt8 :=
  (List.range blocks).flatMap fun block =>
    Sha512.digest (source.seed ++ purpose ::
      (PublicKey.bytesOfWidth 8 source.drawn ++ PublicKey.bytesOfWidth 4 block))

/-- An odd number of exactly the given number of bits, whose upper two bits are ones. -/
def start (source : KeySource) (purpose : UInt8) (bits : Nat) : Nat :=
  let drawn := Der.ofBigEndian (source.bytes purpose (bits / 512 + 1)) % Nat.pow 2 bits
  drawn ||| 3 <<< (bits - 2) ||| 1

/-- Whether a number can be a prime of a key. -/
def isSuitable (n : Nat) : Bool :=
  n % publicExponent ≠ 1 && Prime.isLikely n

/-- The key with the given primes. -/
def ofPrimes (prime1 prime2 : Nat) : PrivateKey :=
  let totient := (prime1 - 1) * (prime2 - 1)
  let inverse := powerMod publicExponent totient (publicExponent - 2)
  { modulus := prime1 * prime2
    publicExponent
    privateExponent := (1 + (publicExponent - inverse) * totient) / publicExponent
    prime1
    prime2 }

/-- A new key with a modulus of the given number of bits. It stands for the key generation of the
`rsa` package, which draws two different primes of half the bits each from the randomness of the
system. -/
def draw (source : KeySource) (bits : Nat) : PrivateKey × KeySource :=
  let bits1 := bits / 2
  let bits2 := bits - bits1
  let prime1 := Prime.firstFrom isSuitable (100 * bits) (source.start 0 bits1)
  let prime2 :=
    Prime.firstFrom (fun n => n ≠ prime1 && isSuitable n) (100 * bits) (source.start 1 bits2)
  (ofPrimes prime1 prime2, { source with drawn := source.drawn + 1 })

end KeySource

end MailProvision
