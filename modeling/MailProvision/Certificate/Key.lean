import MailProvision.Certificate.Der
import MailProvision.Certificate.Pem
import MailProvision.Certificate.Sha512

/-!
# Keys and signatures

Keys of the RSA system, their written forms, and signatures over the 512-bit digest of a message. A
signature is the power of a number that holds the digest, filled up to the length of the modulus.
-/

namespace MailProvision

/-- The remainder of a power, by repeated squaring. -/
def powerMod (modulus base exponent : Nat) : Nat :=
  if exponent = 0 then 1 % modulus
  else
    let half := powerMod modulus (base * base % modulus) (exponent / 2)
    if exponent % 2 = 1 then half * base % modulus else half
termination_by exponent
decreasing_by omega

/-- What everybody may know of a key. -/
structure PublicKey where
  modulus : Nat
  exponent : Nat
deriving DecidableEq, Repr

/-- A key with its secret. -/
structure PrivateKey where
  modulus : Nat
  publicExponent : Nat
  privateExponent : Nat
  prime1 : Nat
  prime2 : Nat
deriving DecidableEq, Repr

/-- The algorithms by their identifiers. -/
inductive Algorithm where
  /-- Keys of the RSA system. -/
  | rsa
  /-- Signatures by such keys over 512-bit digests. -/
  | rsaWithSha512
  | other (id : Der.ObjectId)
deriving DecidableEq, Repr

namespace Algorithm

/-- The identifier of an algorithm. -/
def id : Algorithm → Der.ObjectId
  | rsa => ⟨1, 2, [840, 113549, 1, 1, 1]⟩
  | rsaWithSha512 => ⟨1, 2, [840, 113549, 1, 1, 13]⟩
  | other id => id

/-- The algorithm with an identifier. -/
def ofId (id : Der.ObjectId) : Algorithm :=
  if id = rsa.id then rsa else if id = rsaWithSha512.id then rsaWithSha512 else other id

/-- An algorithm without parameters as a value. -/
def toDer (algorithm : Algorithm) : Der :=
  .sequence [.objectId algorithm.id, .null]

/-- The algorithm that a value names. -/
def ofDer? : Der → Option Algorithm
  | .constructed 0x30 (id :: _) => (Der.objectId? id).map ofId
  | _ => none

end Algorithm

namespace PublicKey

/-- The number of bits of the modulus. -/
def bits (key : PublicKey) : Nat :=
  if key.modulus = 0 then 0 else Nat.log2 key.modulus + 1

/-- The number of bytes of the modulus. -/
def width (key : PublicKey) : Nat :=
  (key.bits + 7) / 8

/-- Modulus and exponent under the identifier of an algorithm. -/
def toDer (algorithm : Algorithm) (key : PublicKey) : Der :=
  let numbers := Der.sequence [.integer key.modulus, .integer key.exponent]
  .sequence [algorithm.toDer, .bitString numbers.encode]

/-- The algorithm and the key that a value holds. -/
def ofDer? : Der → Option (Algorithm × PublicKey)
  | .constructed 0x30 [algorithm, numbers] => do
      let algorithm ← Algorithm.ofDer? algorithm
      let bytes ← Der.bitString? numbers
      match ← Der.decode? bytes with
      | .constructed 0x30 [modulus, exponent] =>
          some (algorithm,
            { modulus := ← Der.integer? modulus, exponent := ← Der.integer? exponent })
      | _ => none
  | _ => none

/-- The digits of a number to the base 256 with zeros in front up to a width. -/
def bytesOfWidth (width n : Nat) : List UInt8 :=
  let digits := Der.bigEndian n
  List.replicate (width - digits.length) 0 ++ digits

/-- The identifier of the digest. -/
def digestId : Der.ObjectId := ⟨2, 16, [840, 1, 101, 3, 4, 2, 3]⟩

/-- The bytes that stand for a message in a signature of a given width: zero and one, bytes of ones,
zero, and the digest under its identifier. -/
def representative (width : Nat) (message : List UInt8) : List UInt8 :=
  let digest := Der.octetString (Sha512.digest message)
  let digestInfo := (Der.sequence [.sequence [.objectId digestId, .null], digest]).encode
  0 :: 1 :: (List.replicate (width - 3 - digestInfo.length) 0xff ++ 0 :: digestInfo)

/-- Whether a signature over a message was made with the secret of the key. -/
def verifies (key : PublicKey) (message signature : List UInt8) : Bool :=
  let power := powerMod key.modulus (Der.ofBigEndian signature) key.exponent
  signature.length = key.width && bytesOfWidth key.width power = representative key.width message

end PublicKey

namespace PrivateKey

/-- What everybody may know of the key. -/
def publicKey (key : PrivateKey) : PublicKey :=
  { modulus := key.modulus, exponent := key.publicExponent }

/-- A signature over a message. -/
def sign (key : PrivateKey) (message : List UInt8) : List UInt8 :=
  let width := key.publicKey.width
  let number := Der.ofBigEndian (PublicKey.representative width message)
  PublicKey.bytesOfWidth width (powerMod key.modulus number key.privateExponent)

/-- The numbers of the key, with those that speed up signing, under the identifier of their
system. -/
def toDer (key : PrivateKey) : Der :=
  let numbers := Der.sequence <| List.map Der.integer
    [0, key.modulus, key.publicExponent, key.privateExponent, key.prime1, key.prime2,
      key.privateExponent % (key.prime1 - 1), key.privateExponent % (key.prime2 - 1),
      powerMod key.prime1 key.prime2 (key.prime1 - 2)]
  .sequence [.integer 0, Algorithm.rsa.toDer, .octetString numbers.encode]

/-- The key that a value holds. -/
def ofDer? : Der → Option PrivateKey
  | .constructed 0x30 [_, _, numbers] => do
      let bytes ← Der.octetString? numbers
      match ← Der.decode? bytes with
      | .constructed 0x30 (_ :: modulus :: known :: secret :: prime1 :: prime2 :: _) =>
          some
            { modulus := ← Der.integer? modulus
              publicExponent := ← Der.integer? known
              privateExponent := ← Der.integer? secret
              prime1 := ← Der.integer? prime1
              prime2 := ← Der.integer? prime2 }
      | _ => none
  | _ => none

/-- The label of a written key. -/
def label : String := "PRIVATE KEY"

/-- The key as text. -/
def toPem (key : PrivateKey) : String :=
  Pem.encode label key.toDer.encode

/-- The key that a text holds. -/
def ofPem? (text : String) : Option PrivateKey := do
  let bytes ← Pem.decode? label text
  ofDer? (← Der.decode? bytes)

end PrivateKey

end MailProvision
