import MailProvision.Certificate.Base64

/-!
# Armoured text

Bytes under a label: a line that opens, the bytes in base 64 with 64 characters on each line, and a
line that closes. Every line ends in a line feed.
-/

namespace MailProvision

namespace Pem

/-- The number of characters on a full line. -/
def lineWidth : Nat := 64

/-- The characters in lines of the full width, each with its line feed; the last may be shorter. -/
def inLines (chars : List Char) : List Char :=
  match chars with
  | [] => []
  | c :: rest =>
      (c :: rest).take lineWidth ++ '\n' :: inLines ((c :: rest).drop lineWidth)
termination_by chars.length
decreasing_by simp only [List.length_drop, List.length_cons, lineWidth]; omega

/-- The line that opens a block. -/
def opening (label : String) : List Char :=
  "-----BEGIN ".toList ++ label.toList ++ "-----".toList

/-- The line that closes a block. -/
def closing (label : String) : List Char :=
  "-----END ".toList ++ label.toList ++ "-----".toList

/-- The text of bytes under a label. -/
def encodeChars (label : String) (bytes : List UInt8) : List Char :=
  opening label ++ '\n' :: (inLines (Base64.encode bytes) ++ closing label ++ ['\n'])

/-- The text of bytes under a label. -/
def encode (label : String) (bytes : List UInt8) : String :=
  String.ofList (encodeChars label bytes)

/-- What follows a given beginning. -/
def after? (beginning chars : List Char) : Option (List Char) :=
  if beginning.isPrefixOf chars then some (chars.drop beginning.length) else none

/-- The bytes of a text that consists of one block under a label. -/
def decode? (label text : String) : Option (List UInt8) := do
  let body ← after? (opening label ++ ['\n']) text.toList
  let data := body.takeWhile (· ≠ '-')
  if body.drop data.length = closing label ++ ['\n'] then
    Base64.decode? (data.filter (· ≠ '\n'))
  else none

end Pem

end MailProvision
