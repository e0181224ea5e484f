import MailProvision.Text.Blank

/-!
# Distinguished encoding

A value is a tag with content: either bytes or a sequence of further values, as the tag says. The
encoding writes the tag, the length of the content in as few bytes as possible, and the content.
`Der.decodeAll?` reads back what `Der.encodeAll` writes.
-/

namespace MailProvision

/-- A tagged value. -/
inductive Der where
  | primitive (tag : UInt8) (content : List UInt8)
  | constructed (tag : UInt8) (parts : List Der)
deriving Repr

namespace Der

/-- The digits of a number to the base 256 in front of `tail`, the greatest first; none for zero. -/
def bigEndianOnto (n : Nat) (tail : List UInt8) : List UInt8 :=
  if n = 0 then tail else bigEndianOnto (n / 256) (UInt8.ofNat n :: tail)
termination_by n
decreasing_by omega

/-- The digits of a number to the base 256, the greatest first; none for zero. -/
def bigEndian (n : Nat) : List UInt8 :=
  bigEndianOnto n []

/-- The number with the given digits to the base 256. -/
def ofBigEndian (bytes : List UInt8) : Nat :=
  bytes.foldl (fun n byte => n * 256 + byte.toNat) 0

/-- A length: one byte below 128, otherwise the number of its digits and the digits. -/
def encodeLength (n : Nat) : List UInt8 :=
  if n < 128 then [UInt8.ofNat n]
  else
    let digits := bigEndian n
    UInt8.ofNat (128 + digits.length) :: digits

/-- A tag, a length and the content. -/
def frame (tag : UInt8) (content : List UInt8) : List UInt8 :=
  tag :: (encodeLength content.length ++ content)

mutual

/-- The bytes of a value. -/
def encode : Der → List UInt8
  | primitive tag content => frame tag content
  | constructed tag parts => frame tag (encodeAll parts)

/-- The bytes of values one after the other. -/
def encodeAll : List Der → List UInt8
  | [] => []
  | value :: rest => encode value ++ encodeAll rest

end

/-- The length at the front of a text of bytes, and what follows. -/
def length? : List UInt8 → Option (Nat × List UInt8)
  | [] => none
  | first :: rest =>
      if first < 128 then some (first.toNat, rest)
      else
        let count := first.toNat - 128
        if rest.length < count then none
        else some (ofBigEndian (rest.take count), rest.drop count)

/-- Whether the content under a tag consists of values. -/
def isConstructed (tag : UInt8) : Bool :=
  tag &&& 0x20 ≠ 0

/-- Reads bytes as values one after the other; the limit bounds their number and their depth. -/
def decodeWithin? : Nat → List UInt8 → Option (List Der)
  | _, [] => some []
  | 0, _ :: _ => none
  | limit + 1, tag :: rest => do
      let (length, rest) ← length? rest
      if rest.length < length then none
      else
        let content := rest.take length
        let value ←
          if isConstructed tag then
            (decodeWithin? limit content).map (constructed tag)
          else some (primitive tag content)
        let values ← decodeWithin? limit (rest.drop length)
        some (value :: values)

/-- Reads bytes as values one after the other. -/
def decodeAll? (bytes : List UInt8) : Option (List Der) :=
  decodeWithin? bytes.length bytes

/-- Reads bytes as a single value. -/
def decode? (bytes : List UInt8) : Option Der :=
  match decodeAll? bytes with
  | some [value] => some value
  | _ => none

/-! ## Kinds of values -/

/-- A sequence. -/
def sequence (parts : List Der) : Der := constructed 0x30 parts

/-- A set. -/
def set (parts : List Der) : Der := constructed 0x31 parts

/-- The bytes of an integer: no more than needed, with a zero in front where the first would
otherwise read as a sign. -/
def integerContent (n : Nat) : List UInt8 :=
  match bigEndian n with
  | [] => [0]
  | first :: rest => if first < 128 then first :: rest else 0 :: first :: rest

/-- A natural number. -/
def integer (n : Nat) : Der := primitive 0x02 (integerContent n)

/-- The number that an integer holds. -/
def integer? : Der → Option Nat
  | primitive 0x02 content => if content.isEmpty then none else some (ofBigEndian content)
  | _ => none

/-- A bit string of whole bytes. -/
def bitString (bytes : List UInt8) : Der := primitive 0x03 (0 :: bytes)

/-- The bytes of a bit string. -/
def bitString? : Der → Option (List UInt8)
  | primitive 0x03 (0 :: bytes) => some bytes
  | _ => none

/-- Bytes. -/
def octetString (bytes : List UInt8) : Der := primitive 0x04 bytes

/-- The content of an octet string. -/
def octetString? : Der → Option (List UInt8)
  | primitive 0x04 bytes => some bytes
  | _ => none

/-- The value that stands for nothing. -/
def null : Der := primitive 0x05 []

/-- The digits of a number to the base 128 in front of `tail`, all but the last with the top bit. -/
def base128Onto (n : Nat) (tail : List UInt8) : List UInt8 :=
  if n = 0 then tail else base128Onto (n / 128) (UInt8.ofNat (128 + n % 128) :: tail)
termination_by n
decreasing_by omega

/-- One arc of an object identifier. -/
def encodeArc (n : Nat) : List UInt8 :=
  base128Onto (n / 128) [UInt8.ofNat (n % 128)]

/-- An object identifier with its first two arcs and the others. -/
structure ObjectId where
  first : Nat
  second : Nat
  others : List Nat
deriving DecidableEq, Repr

namespace ObjectId

/-- The arcs joined by dots. -/
def toText (id : ObjectId) : String :=
  ".".intercalate ((id.first :: id.second :: id.others).map toString)

end ObjectId

/-- An object identifier as a value. -/
def objectId (id : ObjectId) : Der :=
  primitive 0x06 (encodeArc (id.first * 40 + id.second) ++ id.others.flatMap encodeArc)

/-- Reads numbers to the base 128; `n` is what the current one holds so far. -/
def decodeArcs (n : Nat) : List UInt8 → List Nat
  | [] => []
  | byte :: rest =>
      if byte < 128 then (n * 128 + byte.toNat) :: decodeArcs 0 rest
      else decodeArcs (n * 128 + (byte.toNat - 128)) rest

/-- The object identifier that a value holds. -/
def objectId? : Der → Option ObjectId
  | primitive 0x06 content =>
      match decodeArcs 0 content with
      | [] => none
      | joined :: others =>
          let first := min (joined / 40) 2
          some { first, second := joined - first * 40, others }
  | _ => none

end Der

end MailProvision
