import Mathlib.Algebra.GroupWithZero.Nat
import MailProvision.Duration
import MailProvision.Proofs.Text.Codes
import MailProvision.Proofs.Text.Trimming

/-!
# What the text of a duration tells

The letters at the end of the text tell the unit, the digits before the point the whole part, and
the digits after it, filled up with zeros, what is left of a unit. So the text tells the duration to
the nanosecond (`toChars_injective`).
-/

namespace MailProvision

namespace Duration

/-- The units of durations. -/
inductive TimeUnit where
  | seconds
  | milliseconds
  | microseconds
  | nanoseconds
deriving DecidableEq

namespace TimeUnit

/-- How many digits of a number of nanoseconds are less than the unit. -/
def places : TimeUnit → Nat
  | seconds => 9
  | milliseconds => 6
  | microseconds => 3
  | nanoseconds => 0

/-- The unit as it is written. -/
def letters : TimeUnit → List Char
  | seconds => ['s']
  | milliseconds => ['m', 's']
  | microseconds => ['µ', 's']
  | nanoseconds => ['n', 's']

theorem letters_injective : Function.Injective letters := by
  intro first second same
  cases first <;> cases second <;> cases same <;> rfl

end TimeUnit

/-- The unit that a duration is written in. -/
def unit (d : Duration) : TimeUnit :=
  if 1000000000 ≤ d.nanoseconds then .seconds
  else if 1000000 ≤ d.nanoseconds then .milliseconds
  else if 1000 ≤ d.nanoseconds then .microseconds
  else .nanoseconds

theorem toChars_eq (d : Duration) :
    d.toChars = inUnits d.nanoseconds d.unit.places ++ d.unit.letters := by
  simp only [toChars, unit]
  split_ifs <;> rfl

/-- What is left of a unit, with as many digits as it has places. -/
def padded (nanoseconds places : Nat) : List Char :=
  let rest := Nat.toDigits 10 (nanoseconds % 10 ^ places)
  List.replicate (places - rest.length) '0' ++ rest

/-- The digits after the point. -/
def decimals (nanoseconds places : Nat) : List Char :=
  Text.dropEndWhile (· = '0') (padded nanoseconds places)

/-- The point and the digits after it, if there are any. -/
def fraction : List Char → List Char
  | [] => []
  | digits => '.' :: digits

theorem fraction_injective : Function.Injective fraction := by
  intro first second same
  cases first <;> cases second <;> cases same <;> rfl

theorem head?_fraction {digits : List Char} {c : Char} (starts : (fraction digits).head? = some c) :
    c = '.' := by
  cases digits with
  | nil => cases starts
  | cons d rest => exact (Option.some.inj starts).symm

theorem decimals_zero (nanoseconds : Nat) : decimals nanoseconds 0 = [] := by
  rw [decimals, padded, Nat.pow_zero, Nat.mod_one]
  rfl

theorem inUnits_eq (nanoseconds places : Nat) : inUnits nanoseconds places =
    Nat.toDigits 10 (nanoseconds / 10 ^ places) ++ fraction (decimals nanoseconds places) := by
  change (if (decimals nanoseconds places).isEmpty || places = 0 then
    Nat.toDigits 10 (nanoseconds / 10 ^ places)
    else Nat.toDigits 10 (nanoseconds / 10 ^ places) ++ '.' :: decimals nanoseconds places) = _
  by_cases smallest : places = 0
  · rw [smallest, decimals_zero]
    simp [fraction]
  · cases after : decimals nanoseconds places with
    | nil => simp [fraction]
    | cons c rest => simp [fraction, smallest]

/-! ## What is left of a unit -/

theorem length_padded {places : Nat} (positive : 0 < places) (nanoseconds : Nat) :
    (padded nanoseconds places).length = places := by
  have fits : (Nat.toDigits 10 (nanoseconds % 10 ^ places)).length ≤ places :=
    (Nat.length_toDigits_le_iff (by decide) positive).mpr (Nat.mod_lt _ (Nat.pow_pos (by decide)))
  rw [padded, List.length_append, List.length_replicate]
  omega

theorem ofDigitChars_padded (nanoseconds places : Nat) :
    Nat.ofDigitChars 10 (padded nanoseconds places) 0 = nanoseconds % 10 ^ places := by
  rw [padded, Nat.ofDigitChars_append, Nat.ofDigitChars_replicate_zero, Nat.mul_zero,
    Nat.ofDigitChars_ten_toDigits]

theorem mod_eq_of_decimals_eq {n m places : Nat} (same : decimals n places = decimals m places) :
    n % 10 ^ places = m % 10 ^ places := by
  rcases Nat.eq_zero_or_pos places with rfl | positive
  · -- Nothing is less than a nanosecond.
    rw [Nat.pow_zero, Nat.mod_one, Nat.mod_one]
  · have lengths : (padded n places).length = (padded m places).length := by
      rw [length_padded positive, length_padded positive]
    rw [← ofDigitChars_padded n, ← ofDigitChars_padded m,
      Text.eq_of_dropEndWhile_eq lengths same]

/-! ## The characters -/

theorem isDigit_of_mem_decimals {nanoseconds places : Nat} {c : Char}
    (member : c ∈ decimals nanoseconds places) : c.isDigit = true := by
  have within := (Text.dropEndWhile_prefix _ _).subset member
  rcases List.mem_append.mp within with zeros | digits
  · rw [(List.mem_replicate.mp zeros).2]
    rfl
  · exact Nat.isDigit_of_mem_toDigits (by decide) (by decide) digits

theorem digit_or_point_of_mem_inUnits {nanoseconds places : Nat} {c : Char}
    (member : c ∈ inUnits nanoseconds places) : (c.isDigit || c = '.') = true := by
  rw [inUnits_eq] at member
  rcases List.mem_append.mp member with whole | after
  · rw [Nat.isDigit_of_mem_toDigits (by decide) (by decide) whole]
    rfl
  · cases digits : decimals nanoseconds places with
    | nil =>
        rw [digits] at after
        cases after
    | cons d rest =>
        rw [digits] at after
        rcases List.mem_cons.mp after with rfl | later
        · rfl
        · rw [isDigit_of_mem_decimals (digits ▸ later)]
          rfl

theorem inUnits_injective (places : Nat) : Function.Injective (inUnits · places) := by
  intro n m same
  simp only [inUnits_eq] at same
  have point {digits : List Char} (c : Char) (starts : (fraction digits).head? = some c) :
      c.isDigit = false := by
    rw [head?_fraction starts]
    rfl
  have whole (n : Nat) : ∀ c ∈ Nat.toDigits 10 n, c.isDigit = true :=
    fun _ => Nat.isDigit_of_mem_toDigits (by decide) (by decide)
  rcases append_inj_of_test (whole _) (whole _) point point same with ⟨units, fractions⟩
  have quotients := toDigits_injective (by decide) (by decide) units
  have remainders := mod_eq_of_decimals_eq (fraction_injective fractions)
  rw [← Nat.div_add_mod n (10 ^ places), quotients, remainders, Nat.div_add_mod]

theorem toChars_injective : Function.Injective toChars := by
  intro first second same
  rw [toChars_eq, toChars_eq] at same
  have letters {unit : TimeUnit} (c : Char) (starts : unit.letters.head? = some c) :
      (c.isDigit || c = '.') = false := by
    cases unit <;> (rw [← Option.some.inj starts]; decide)
  rcases append_inj_of_test (fun _ => digit_or_point_of_mem_inUnits)
    (fun _ => digit_or_point_of_mem_inUnits) letters letters same with ⟨numbers, units⟩
  rw [TimeUnit.letters_injective units] at numbers
  have nanoseconds := inUnits_injective _ numbers
  cases first
  cases second
  exact congrArg Duration.mk nanoseconds

theorem newline_not_mem_toChars (d : Duration) : '\n' ∉ d.toChars := by
  rw [toChars_eq, List.mem_append, not_or]
  constructor
  · intro member
    have printable := digit_or_point_of_mem_inUnits member
    cases printable
  · cases d.unit <;> decide

/-- A duration is told from its text and the end of the line. -/
theorem unambiguous_toChars : Unambiguous fun d : Duration => d.toChars ++ ['\n'] :=
  .delimited toChars_injective newline_not_mem_toChars

end Duration

end MailProvision
