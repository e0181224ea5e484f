/-!
# Lengths of time

A duration is a number of nanoseconds. Its text uses the greatest unit of seconds, milliseconds,
microseconds and nanoseconds that makes the whole part positive, and as many decimals as needed.
-/

namespace MailProvision

/-- A length of time in nanoseconds. -/
structure Duration where
  nanoseconds : Nat
deriving DecidableEq, Repr

namespace Duration

/-- A whole number of seconds. -/
def ofSeconds (seconds : Nat) : Duration :=
  ⟨seconds * 1000000000⟩

/-- A whole number of milliseconds. -/
def ofMilliseconds (milliseconds : Nat) : Duration :=
  ⟨milliseconds * 1000000⟩

/-- A number of units of `10 ^ places` nanoseconds, with its decimals up to the last that is not
zero. -/
def inUnits (nanoseconds places : Nat) : List Char :=
  let unit := Nat.pow 10 places
  let whole := Nat.toDigits 10 (nanoseconds / unit)
  let rest := Nat.toDigits 10 (nanoseconds % unit)
  let padded := List.replicate (places - rest.length) '0' ++ rest
  let decimals := (padded.reverse.dropWhile (· = '0')).reverse
  if decimals.isEmpty || places = 0 then whole else whole ++ '.' :: decimals

/-- The characters of a duration's text. -/
def toChars (d : Duration) : List Char :=
  let n := d.nanoseconds
  if 1000000000 ≤ n then inUnits n 9 ++ ['s']
  else if 1000000 ≤ n then inUnits n 6 ++ ['m', 's']
  else if 1000 ≤ n then inUnits n 3 ++ ['µ', 's']
  else inUnits n 0 ++ ['n', 's']

/-- The text of a duration, such as `1.5s` or `250ms`. -/
def toText (d : Duration) : String :=
  String.ofList d.toChars

example : (Duration.ofMilliseconds 1500).toText = "1.5s" := by decide +kernel

end Duration

end MailProvision
