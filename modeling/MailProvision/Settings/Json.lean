import MailProvision.Numeral.Reading
import MailProvision.Settings.Value

/-!
# Settings in JSON

A strict reader of JSON texts. Arrays and objects nest at most `depthLimit - 1` deep, an object
keeps the last value given for a key, and integers outside the signed 64-bit range become floats.

A fraction is the significand, cut to the digits that fit into 64 bits and rounded once, times or
divided by a power of ten, rounded once more. All this is as the `serde_json` package reads.
-/

namespace MailProvision

namespace Settings

namespace Json

/-- The nesting at which reading gives up. -/
def depthLimit : Nat := 128

/-- Drops the blanks between tokens. -/
def skipBlanks (chars : List Char) : List Char :=
  chars.dropWhile fun c => c = ' ' || c = '\t' || c = '\n' || c = '\r'

/-- Drops a word off the front. -/
def dropWord? (word : String) (chars : List Char) : Option (List Char) :=
  if word.toList.isPrefixOf chars then some (chars.drop word.length) else none

/-- The greatest number that fits into 64 bits. -/
def significandLimit : Nat := 18446744073709551615

/-- Adds digits to a significand while it stays within 64 bits. Returns the significand, the number
of digits added and the number of digits left over. -/
def gather (significand : Nat) : List Nat → Nat × Nat × Nat
  | [] => (significand, 0, 0)
  | digit :: rest =>
      if significandLimit < significand * 10 + digit then (significand, 0, rest.length + 1)
      else
        let (total, added, left) := gather (significand * 10 + digit) rest
        (total, added + 1, left)

/-- A significand scaled by a power of ten, with one rounding for the significand and one for each
scaling. Scaling down goes in strides of `10 ^ 308`; a result beyond the greatest float is refused.
The first argument bounds the number of strides. -/
def scale : Nat → Binary64 → Int → Option Binary64
  | 0, x, _ => if x.isZero then some x else none
  | limit + 1, x, exponent =>
      if exponent.natAbs ≤ 308 then
        let power := Binary64.ofNat (Nat.pow 10 exponent.natAbs)
        if 0 ≤ exponent then
          let product := x.mul power
          if product.isInfinite then none else some product
        else some (x.div power)
      else if x.isZero then some x
      else if 0 ≤ exponent then none
      else scale limit (x.div (Binary64.ofNat (Nat.pow 10 308))) (exponent + 308)

/-- A fraction from its significand and its exponent. -/
def fraction? (negative : Bool) (significand : Nat) (exponent : Int) : Option Binary64 :=
  (scale 8 (Binary64.ofNat significand) exponent).map fun x => if negative then x.negate else x

/-- The digits at the front as numbers, and what follows them. -/
def digits (chars : List Char) : List Nat × List Char :=
  let (front, rest) := Numeral.spanDigits chars
  (front.filterMap Numeral.digit?, rest)

/-- An exponent after its letter: an optional sign and at least one digit. -/
def exponent? (chars : List Char) : Option (Int × List Char) :=
  let (negative, unsigned) := Numeral.splitSign chars
  match digits unsigned with
  | ([], _) => none
  | (ds, rest) =>
      let n : Int := Numeral.ofDigits 10 ds
      some (if negative then -n else n, rest)

/-- The end of a fraction: an optional exponent. -/
def finish (negative : Bool) (significand : Nat) (shift : Int) (chars : List Char) :
    Option (Scalar × List Char) :=
  match chars with
  | c :: rest =>
      if c = 'e' || c = 'E' then do
        let (exponent, after) ← exponent? rest
        let x ← fraction? negative significand (shift + exponent)
        return (.float x, after)
      else do
        let x ← fraction? negative significand shift
        return (.float x, chars)
  | [] => do
      let x ← fraction? negative significand shift
      return (.float x, [])

/-- A number without its sign. -/
def unsigned? (negative : Bool) (chars : List Char) : Option (Scalar × List Char) :=
  match digits chars with
  | ([], _) => none
  | (0 :: _ :: _, _) => none
  | (whole, rest) =>
      let (significand, _, left) := gather 0 whole
      match rest with
      | '.' :: after =>
          match digits after with
          | ([], _) => none
          | (places, afterPlaces) =>
              let (total, added, _) := gather significand places
              finish negative total ((left : Int) - added) afterPlaces
      | _ =>
          if left ≠ 0 || rest.head? = some 'e' || rest.head? = some 'E' then
            finish negative significand left rest
          else
            let value : Int := if negative then -(significand : Int) else significand
            if Numeral.isInt64 value && !(negative && significand = 0) then
              some (.integer value, rest)
            else do
              let x ← fraction? negative significand 0
              return (.float x, rest)

/-- A number. -/
def number? (chars : List Char) : Option (Scalar × List Char) :=
  match chars with
  | '-' :: rest => unsigned? true rest
  | _ => unsigned? false chars

/-- Four hexadecimal digits. -/
def hexFour? : List Char → Option (Nat × List Char)
  | a :: b :: c :: d :: rest => (Numeral.natIn? 16 [a, b, c, d]).map fun n => (n, rest)
  | _ => none

/-- An escaped code unit after its letter, and the second one of a pair where the first demands
it. -/
def escapedUnit? (chars : List Char) : Option (Char × List Char) := do
  let (first, rest) ← hexFour? chars
  if first < 0xD800 || 0xDFFF < first then return (Char.ofNat first, rest)
  if 0xDC00 ≤ first then none
  match rest with
  | '\\' :: 'u' :: after =>
      let (second, afterPair) ← hexFour? after
      if second < 0xDC00 || 0xDFFF < second then none
      else
        let code := 0x10000 + (first - 0xD800) * 0x400 + (second - 0xDC00)
        return (Char.ofNat code, afterPair)
  | _ => none

/-- The character that a letter after a backslash stands for. -/
def escapedLetter? : Char → Option Char
  | '"' => some '"'
  | '\\' => some '\\'
  | '/' => some '/'
  | 'b' => some '\x08'
  | 'f' => some '\x0c'
  | 'n' => some '\n'
  | 'r' => some '\r'
  | 't' => some '\t'
  | _ => none

/-- The rest of a string after its opening quote. The first argument bounds the number of
characters. -/
def stringBody? : Nat → List Char → Option (List Char × List Char)
  | 0, _ => none
  | _, [] => none
  | _ + 1, '"' :: rest => some ([], rest)
  | limit + 1, '\\' :: 'u' :: rest => do
      let (c, after) ← escapedUnit? rest
      let (body, final) ← stringBody? limit after
      return (c :: body, final)
  | limit + 1, '\\' :: letter :: rest => do
      let c ← escapedLetter? letter
      let (body, final) ← stringBody? limit rest
      return (c :: body, final)
  | limit + 1, c :: rest =>
      if c.toNat < 0x20 || c = '\\' then none
      else do
        let (body, final) ← stringBody? limit rest
        return (c :: body, final)

/-- A string after its opening quote. -/
def string? (chars : List Char) : Option (String × List Char) :=
  (stringBody? (chars.length + 1) chars).map fun (body, rest) => (String.ofList body, rest)

mutual

/-- A value. The first argument bounds the work, the second the nesting. -/
def value? (origin : Origin) : Nat → Nat → List Char → Option (Value × List Char)
  | 0, _, _ => none
  | limit + 1, depth, chars =>
      match skipBlanks chars with
      | '"' :: rest => do
          let (text, after) ← string? rest
          return (.scalar origin (.text text), after)
      | '[' :: rest =>
          if depth ≤ 1 then none
          else
            match skipBlanks rest with
            | ']' :: after => some (.array origin [], after)
            | _ => do
                let (items, after) ← items? origin limit (depth - 1) rest
                return (.array origin items, after)
      | '\x7b' :: rest =>
          if depth ≤ 1 then none
          else
            match skipBlanks rest with
            | '\x7d' :: after => some (.table origin [], after)
            | _ => do
                let (entries, after) ← entries? origin limit (depth - 1) [] rest
                return (.table origin entries, after)
      | start =>
          match dropWord? "null" start, dropWord? "true" start, dropWord? "false" start with
          | some after, _, _ => some (.scalar origin .nil, after)
          | _, some after, _ => some (.scalar origin (.boolean true), after)
          | _, _, some after => some (.scalar origin (.boolean false), after)
          | none, none, none => do
              let (content, after) ← number? start
              return (.scalar origin content, after)

/-- The items of an array up to its closing bracket. -/
def items? (origin : Origin) : Nat → Nat → List Char → Option (List Value × List Char)
  | 0, _, _ => none
  | limit + 1, depth, chars => do
      let (first, after) ← value? origin limit depth chars
      match skipBlanks after with
      | ',' :: rest =>
          let (others, final) ← items? origin limit depth rest
          return (first :: others, final)
      | ']' :: rest => return ([first], rest)
      | _ => none

/-- The entries of an object up to its closing brace, added to those read before. -/
def entries? (origin : Origin) : Nat → Nat → Entries → List Char → Option (Entries × List Char)
  | 0, _, _, _ => none
  | limit + 1, depth, before, chars =>
      match skipBlanks chars with
      | '"' :: rest => do
          let (key, afterKey) ← string? rest
          match skipBlanks afterKey with
          | ':' :: afterColon =>
              let (value, after) ← value? origin limit depth afterColon
              let entries := before.put key value
              match skipBlanks after with
              | ',' :: more => entries? origin limit depth entries more
              | '\x7d' :: final => return (entries, final)
              | _ => none
          | _ => none
      | _ => none

end

/-- Reads a whole text. -/
def read? (origin : Origin) (chars : List Char) : Option Value := do
  let (value, rest) ← value? origin (2 * chars.length + 2) depthLimit chars
  if (skipBlanks rest).isEmpty then some value else none

end Json

end Settings

end MailProvision
