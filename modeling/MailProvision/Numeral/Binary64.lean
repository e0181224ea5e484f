/-!
# Double precision numbers

The numbers of the binary64 format as data: a sign, a significand below `2 ^ 53` and an exponent of
two, with infinities and a single not-a-number. Arithmetic is exact arithmetic on quotients of
natural numbers followed by one rounding to the nearest representable number, ties to the even
significand (`ofQuotient`).

A finite number is normalised: its significand is at least `2 ^ 52`, or its exponent is the least
one, `-1074`.
-/

namespace MailProvision

/-- A number of the binary64 format; `finite` stands for `± significand * 2 ^ exponent`. -/
inductive Binary64 where
  | nan
  | infinite (negative : Bool)
  | finite (negative : Bool) (significand : Nat) (exponent : Int)
deriving DecidableEq, Repr

namespace Binary64

/-- The exponent of the least positive number. -/
def leastExponent : Int := -1074

/-- The exponent of the greatest finite number. -/
def greatestExponent : Int := 971

/-- The quotient rounded to the nearest natural number, a half to the even neighbour. -/
def roundQuotient (num den : Nat) : Nat :=
  let quotient := num / den
  let rest := num % den
  if 2 * rest < den then quotient
  else if den < 2 * rest then quotient + 1
  else quotient + quotient % 2

/-- `num / (den * 2 ^ exponent)` as a quotient of natural numbers. -/
def shiftQuotient (num den : Nat) (exponent : Int) : Nat × Nat :=
  if 0 ≤ exponent then (num, den * Nat.pow 2 exponent.toNat)
  else (num * Nat.pow 2 (-exponent).toNat, den)

/-- The exponent at which the integer part of a positive quotient has 53 binary digits, or the least
exponent if that is greater. -/
def exponentOf (num den : Nat) : Int :=
  let estimate : Int := (num.log2 : Int) - den.log2 - 52
  let shifted := shiftQuotient num den estimate
  let exact := if shifted.1 / shifted.2 < Nat.pow 2 52 then estimate - 1 else estimate
  max exact leastExponent

/-- Zero with a sign. -/
def zero (negative : Bool) : Binary64 :=
  finite negative 0 leastExponent

/-- The representable number nearest to `± num / den`; too great a quotient gives an infinity. -/
def ofQuotient (negative : Bool) (num den : Nat) : Binary64 :=
  if num = 0 then zero negative
  else
    let exponent := exponentOf num den
    let shifted := shiftQuotient num den exponent
    let significand := roundQuotient shifted.1 shifted.2
    let carried := significand = Nat.pow 2 53
    let exponent := if carried then exponent + 1 else exponent
    if greatestExponent < exponent then infinite negative
    else finite negative (if carried then Nat.pow 2 52 else significand) exponent

/-- The representable number nearest to a natural number. -/
def ofNat (n : Nat) : Binary64 :=
  ofQuotient false n 1

/-- The representable number nearest to `± n * 10 ^ exponent`. Exponents far outside the format's
range are settled without computing the power. -/
def ofDecimal (negative : Bool) (n : Nat) (exponent : Int) : Binary64 :=
  let digits : Int := (Nat.toDigits 10 n).length
  if n = 0 then zero negative
  else if 400 < digits + exponent then infinite negative
  else if digits + exponent < -400 then zero negative
  else if 0 ≤ exponent then ofQuotient negative (n * Nat.pow 10 exponent.toNat) 1
  else ofQuotient negative n (Nat.pow 10 (-exponent).toNat)

/-- The magnitude `significand * 2 ^ exponent` as a quotient of natural numbers. -/
def magnitude (significand : Nat) (exponent : Int) : Nat × Nat :=
  if 0 ≤ exponent then (significand * Nat.pow 2 exponent.toNat, 1)
  else (significand, Nat.pow 2 (-exponent).toNat)

/-- The sign bit; not-a-number counts as positive. -/
def isNegative : Binary64 → Bool
  | nan => false
  | infinite negative => negative
  | finite negative _ _ => negative

/-- The number with the opposite sign. -/
def negate : Binary64 → Binary64
  | nan => nan
  | infinite negative => infinite !negative
  | finite negative significand exponent => finite (!negative) significand exponent

/-- Whether the number is an infinity. -/
def isInfinite : Binary64 → Bool
  | infinite _ => true
  | _ => false

/-- Whether the number is a zero of either sign. -/
def isZero : Binary64 → Bool
  | finite _ 0 _ => true
  | _ => false

/-- The rounded product. -/
def mul : Binary64 → Binary64 → Binary64
  | nan, _ => nan
  | _, nan => nan
  | infinite s, y => if y.isZero then nan else infinite (s != y.isNegative)
  | x, infinite t => if x.isZero then nan else infinite (x.isNegative != t)
  | finite s m e, finite t n f =>
      let left := magnitude m e
      let right := magnitude n f
      ofQuotient (s != t) (left.1 * right.1) (left.2 * right.2)

/-- The rounded quotient. -/
def div : Binary64 → Binary64 → Binary64
  | nan, _ => nan
  | _, nan => nan
  | infinite _, infinite _ => nan
  | infinite s, finite t _ _ => infinite (s != t)
  | finite s _ _, infinite t => zero (s != t)
  | finite s m e, finite t n f =>
      if n = 0 then (if m = 0 then nan else infinite (s != t))
      else
        let left := magnitude m e
        let right := magnitude n f
        ofQuotient (s != t) (left.1 * right.2) (left.2 * right.1)

/-- The nearest integer, a half away from zero; `none` for an infinity or not-a-number. -/
def roundHalfAway : Binary64 → Option Int
  | finite negative significand exponent =>
      let value := magnitude significand exponent
      let rounded : Int := ((2 * value.1 + value.2) / (2 * value.2) : Nat)
      some (if negative then -rounded else rounded)
  | _ => none

/-- The nearest integer, a half away from zero, brought into the given range: an infinity gives the
end of the range on its side, not-a-number gives zero. -/
def toIntWithin (least greatest : Int) (x : Binary64) : Int :=
  match x with
  | nan => 0
  | infinite negative => if negative then least else greatest
  | finite .. => max least (min greatest (x.roundHalfAway.getD 0))

end Binary64

end MailProvision
