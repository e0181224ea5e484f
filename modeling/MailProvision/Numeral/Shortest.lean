import MailProvision.Numeral.Binary64

/-!
# The shortest decimal text of a double

Of all decimals that round to a given number, `shortest` picks one with the fewest digits, and of
those the nearest to the number. `toText` writes it positionally, without an exponent and without a
fraction when the number is whole.
-/

namespace MailProvision

namespace Binary64

/-- A positive decimal `digits * 10 ^ exponent`. -/
structure Decimal where
  digits : Nat
  exponent : Int
deriving DecidableEq, Repr

/-- The number `k` with `10 ^ (k - 1) ≤ num / den < 10 ^ k`, for a positive quotient. -/
def decimalExponent (num den : Nat) : Int :=
  if den ≤ num then ((Nat.toDigits 10 (num / den)).length : Int)
  else
    let places := (Nat.toDigits 10 (den / num)).length
    if num * Nat.pow 10 (places - 1) = den then 2 - (places : Int) else 1 - (places : Int)

/-- A positive number with the interval of reals that round to it, over one denominator. -/
structure Basin where
  least : Nat
  value : Nat
  greatest : Nat
  denominator : Nat
  /-- Whether the ends of the interval round to the number too. -/
  closed : Bool

/-- The interval around `significand * 2 ^ exponent`: half a unit to either side, a quarter below a
power of two. Its ends belong to it when the significand is even. -/
def basin (significand : Nat) (exponent : Int) : Basin :=
  let unit := magnitude 1 (exponent - 2)
  let below := if significand = Nat.pow 2 52 && leastExponent < exponent then 1 else 2
  { least := (4 * significand - below) * unit.1
    value := 4 * significand * unit.1
    greatest := (4 * significand + 2) * unit.1
    denominator := unit.2
    closed := significand % 2 = 0 }

/-- Whether `num / den` lies in an interval whose ends have the same denominator. -/
def Basin.holds (b : Basin) (num : Nat) : Bool :=
  if b.closed then b.least ≤ num && num ≤ b.greatest else b.least < num && num < b.greatest

/-- The interval measured in units of `10 ^ exponent`. -/
def Basin.inUnits (b : Basin) (exponent : Int) : Basin :=
  if 0 ≤ exponent then { b with denominator := b.denominator * Nat.pow 10 exponent.toNat }
  else
    let factor := Nat.pow 10 (-exponent).toNat
    { b with least := b.least * factor, value := b.value * factor, greatest := b.greatest * factor }

/-- The neighbour of the number on the grid of `places` digits that rounds to it, if one does; of
two such neighbours the nearer, and the even one at equal distance. -/
def onGrid? (b : Basin) (places : Nat) : Option Decimal :=
  let exponent := decimalExponent b.value b.denominator - places
  let scaled := b.inUnits exponent
  let lower := scaled.value / scaled.denominator
  let rest := scaled.value % scaled.denominator
  let lowerHolds := scaled.holds (lower * scaled.denominator)
  let upperHolds := scaled.holds ((lower + 1) * scaled.denominator)
  let upperNearer :=
    scaled.denominator < 2 * rest || (scaled.denominator = 2 * rest && lower % 2 = 1)
  match lowerHolds, upperHolds with
  | true, true => some ⟨if upperNearer then lower + 1 else lower, exponent⟩
  | true, false => some ⟨lower, exponent⟩
  | false, true => some ⟨lower + 1, exponent⟩
  | false, false => none

/-- The decimal with the fewest digits that rounds to `significand * 2 ^ exponent`; seventeen digits
always suffice. -/
def shortest (significand : Nat) (exponent : Int) : Decimal :=
  let b := basin significand exponent
  (((List.range 17).findSome? fun n => onGrid? b (n + 1))).getD ⟨significand, 0⟩

/-- A positive decimal in positional notation. -/
def Decimal.toChars (d : Decimal) : List Char :=
  let written := Nat.toDigits 10 d.digits
  if 0 ≤ d.exponent then written ++ List.replicate d.exponent.toNat '0'
  else
    let places := (-d.exponent).toNat
    let padded := List.replicate (places + 1 - written.length) '0' ++ written
    let whole := padded.take (padded.length - places)
    let fraction := (padded.drop (padded.length - places)).reverse.dropWhile (· = '0')
    if fraction.isEmpty then whole else whole ++ '.' :: fraction.reverse

/-- The positional text of a number: the shortest decimal that rounds to it. -/
def toText : Binary64 → String
  | nan => "NaN"
  | infinite negative => if negative then "-inf" else "inf"
  | finite negative significand exponent =>
      let sign := if negative then ['-'] else []
      let body := if significand = 0 then ['0'] else (shortest significand exponent).toChars
      String.ofList (sign ++ body)

end Binary64

end MailProvision
