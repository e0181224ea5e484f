/-!
# Base 64

Three bytes are four characters of an alphabet of 64; where one or two bytes are left at the end,
the equals sign fills up the four characters.
-/

namespace MailProvision

namespace Base64

/-- The alphabet. -/
def alphabet : List Char :=
  "ABCDEFGHIJKLMNOPQRSTUVWXYZabcdefghijklmnopqrstuvwxyz0123456789+/".toList

/-- The character of a number below 64. -/
def digit (n : Nat) : Char :=
  alphabet.getD (n % 64) 'A'

/-- The number of a character of the alphabet. -/
def value? (c : Char) : Option Nat :=
  alphabet.findIdx? (· = c)

/-- The characters of bytes. -/
def encode : List UInt8 → List Char
  | [] => []
  | [a] =>
      let n := a.toNat
      [digit (n / 4), digit (n % 4 * 16), '=', '=']
  | [a, b] =>
      let n := a.toNat * 256 + b.toNat
      [digit (n / 1024), digit (n / 16 % 64), digit (n % 16 * 4), '=']
  | a :: b :: c :: rest =>
      let n := (a.toNat * 256 + b.toNat) * 256 + c.toNat
      digit (n / 262144) :: digit (n / 4096 % 64) :: digit (n / 64 % 64) :: digit (n % 64) ::
        encode rest

/-- The bytes of characters; none if they are no whole number of fours, or none that `encode`
writes. -/
def decode? : List Char → Option (List UInt8)
  | [] => some []
  | [a, b, '=', '='] => do
      let x ← value? a
      let y ← value? b
      if y % 16 = 0 then some [UInt8.ofNat (x * 4 + y / 16)] else none
  | [a, b, c, '='] => do
      let x ← value? a
      let y ← value? b
      let z ← value? c
      let n := (x * 64 + y) * 64 + z
      if n % 4 = 0 then some [UInt8.ofNat (n / 1024), UInt8.ofNat (n / 4)] else none
  | a :: b :: c :: d :: rest => do
      let x ← value? a
      let y ← value? b
      let z ← value? c
      let w ← value? d
      let n := ((x * 64 + y) * 64 + z) * 64 + w
      let bytes ← decode? rest
      some (UInt8.ofNat (n / 65536) :: UInt8.ofNat (n / 256) :: UInt8.ofNat n :: bytes)
  | _ => none

example : String.ofList (encode [0x4d, 0x61, 0x6e, 0xff]) = "TWFu/w==" := by decide

end Base64

end MailProvision
