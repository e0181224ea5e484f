import MailProvision.Numeral.Binary64

/-!
# Reading numbers from text

Decimal integers with an optional sign, and decimal fractions with an optional exponent. Both read
the whole text or nothing: no blanks, no separators.
-/

namespace MailProvision

namespace Numeral

/-- The value of a decimal digit. -/
def digit? (c : Char) : Option Nat :=
  if '0' ≤ c && c ≤ '9' then some (c.toNat - '0'.toNat) else none

/-- The value of a digit in a base up to sixteen. -/
def digitIn? (base : Nat) (c : Char) : Option Nat :=
  let value? :=
    if '0' ≤ c && c ≤ '9' then some (c.toNat - '0'.toNat)
    else if 'a' ≤ c && c ≤ 'f' then some (c.toNat - 'a'.toNat + 10)
    else if 'A' ≤ c && c ≤ 'F' then some (c.toNat - 'A'.toNat + 10)
    else none
  value?.filter (· < base)

/-- The number with the given digits, the most significant one first. -/
def ofDigits (base : Nat) (digits : List Nat) : Nat :=
  digits.foldl (fun n digit => base * n + digit) 0

/-- A nonempty run of digits in a base, read as a number. -/
def natIn? (base : Nat) (chars : List Char) : Option Nat :=
  if chars.isEmpty then none else (chars.mapM (digitIn? base)).map (ofDigits base)

/-- A nonempty run of decimal digits, read as a number. -/
def nat? (chars : List Char) : Option Nat :=
  natIn? 10 chars

/-- Splits an optional sign off the front; `true` stands for a minus. -/
def splitSign : List Char → Bool × List Char
  | '+' :: rest => (false, rest)
  | '-' :: rest => (true, rest)
  | chars => (false, chars)

/-- A decimal integer with an optional sign. -/
def int? (chars : List Char) : Option Int :=
  let (negative, digits) := splitSign chars
  (nat? digits).map fun n => if negative then -(n : Int) else n

/-- The range of signed 64-bit integers. -/
def isInt64 (i : Int) : Bool :=
  -9223372036854775808 ≤ i && i ≤ 9223372036854775807

/-- The range of unsigned 64-bit integers. -/
def isUInt64 (i : Int) : Bool :=
  0 ≤ i && i ≤ 18446744073709551615

/-- A decimal integer of the signed 64-bit range. -/
def int64? (chars : List Char) : Option Int :=
  (int? chars).filter isInt64

/-- A decimal integer of the unsigned 64-bit range, without a minus sign. -/
def uint64? : List Char → Option Int
  | '-' :: _ => none
  | chars => (int? chars).filter isUInt64

/-- Splits the longest run of decimal digits off the front. -/
def spanDigits (chars : List Char) : List Char × List Char :=
  chars.span fun c => (digit? c).isSome

/-- An exponent part `e`, sign, digits; nothing at all stands for exponent zero. -/
def exponentPart? : List Char → Option Int
  | [] => some 0
  | c :: rest => if c = 'e' || c = 'E' then int? rest else none

/-- An unsigned decimal fraction: digits with an optional point before, among or after them, and an
optional exponent. -/
def fraction? (negative : Bool) (chars : List Char) : Option Binary64 := do
  let (whole, afterWhole) := spanDigits chars
  let (places, afterPlaces) :=
    match afterWhole with
    | '.' :: rest => spanDigits rest
    | rest => ([], rest)
  let exponent ← exponentPart? afterPlaces
  let n ← nat? (whole ++ places)
  return Binary64.ofDecimal negative n (exponent - places.length)

/-- A double: a decimal fraction with an optional sign, or one of the words `inf`, `infinity` and
`nan` in any case. -/
def binary64? (chars : List Char) : Option Binary64 :=
  let (negative, body) := splitSign chars
  match String.ofList (body.map Char.toLower) with
  | "inf" | "infinity" => some (.infinite negative)
  | "nan" => some .nan
  | _ => fraction? negative body

end Numeral

end MailProvision
