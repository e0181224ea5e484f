/-!
# White space

The characters of the Unicode property `White_Space`, and trimming by them. Trimming works on lists
of characters, where it is a `dropWhile` at either end; `trim` is the same on strings.
-/

namespace MailProvision

namespace Text

/-- Membership in the Unicode property `White_Space`. -/
def isBlank (c : Char) : Bool :=
  let code := c.toNat
  (9 ≤ code && code ≤ 13) || code == 0x20 || code == 0x85 || code == 0xA0 || code == 0x1680 ||
    (0x2000 ≤ code && code ≤ 0x200A) || code == 0x2028 || code == 0x2029 || code == 0x202F ||
    code == 0x205F || code == 0x3000

/-- Drops the longest end of the list whose members all satisfy the test. -/
def dropEndWhile (test : Char → Bool) (chars : List Char) : List Char :=
  (chars.reverse.dropWhile test).reverse

/-- The characters without white space at the front. -/
def trimStartChars (chars : List Char) : List Char :=
  chars.dropWhile isBlank

/-- The characters without white space at the end. -/
def trimEndChars (chars : List Char) : List Char :=
  dropEndWhile isBlank chars

/-- The characters without white space at either end. -/
def trimChars (chars : List Char) : List Char :=
  trimEndChars (trimStartChars chars)

/-- The text without white space at either end. -/
def trim (text : String) : String :=
  String.ofList (trimChars text.toList)

/-- The parts of a list between the occurrences of a separator; there is always at least one. -/
def splitChars (separator : Char) : List Char → List (List Char)
  | [] => [[]]
  | c :: rest =>
      if c = separator then
        [] :: splitChars separator rest
      else
        match splitChars separator rest with
        | [] => [[c]]
        | part :: parts => (c :: part) :: parts

@[simp]
theorem splitChars_ne_nil (separator : Char) (chars : List Char) :
    splitChars separator chars ≠ [] := by
  induction chars with
  | nil => simp [splitChars]
  | cons c rest ih =>
      simp only [splitChars]
      split
      · simp
      · split <;> simp

end Text

end MailProvision
