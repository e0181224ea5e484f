import MailProvision.Numeral.Reading
import MailProvision.Settings.Value

/-!
# Scalars of YAML

What a plain scalar stands for, by its text and an optional tag, and the text of scalars in quotes,
both as in the `yaml-rust` package.
-/

namespace MailProvision

namespace Settings

namespace Yaml

/-- The place in a text: what is left, how far it is from the start of its line, and the values that
have been given a name so far. -/
structure Position where
  rest : List Char
  column : Nat
  named : List (String × Value)

namespace Position

/-- The position after `count` characters of the same line. -/
def advance (position : Position) (count : Nat) : Position :=
  { position with rest := position.rest.drop count, column := position.column + count }

/-- The position at the start of the next line, for a position before a line end. -/
def nextLine (position : Position) : Position :=
  { position with rest := position.rest.drop 1, column := 0 }

/-- The position with other text before it. -/
def moveTo (position : Position) (rest : List Char) : Position :=
  let passed := position.rest.take (position.rest.length - rest.length)
  let line := passed.reverse.takeWhile (· ≠ '\n')
  let column := if '\n' ∈ passed then line.length else position.column + passed.length
  { position with rest, column }

end Position

/-- Whether a text starts with a blank or a line end, or is empty. -/
def startsBlank : List Char → Bool
  | [] => true
  | c :: _ => c = ' ' || c = '\t' || c = '\n'

/-- A signed integer in a base, within 64 bits. -/
def intIn? (base : Nat) (chars : List Char) : Option Int :=
  let (negative, digits) := Numeral.splitSign chars
  ((Numeral.natIn? base digits).map fun n => if negative then -(n : Int) else n).filter
    Numeral.isInt64

/-- The integer that a plain scalar stands for. -/
def integer? (chars : List Char) : Option Int :=
  match chars with
  | '0' :: 'x' :: rest => intIn? 16 rest <|> Numeral.int64? chars
  | '0' :: 'o' :: rest => intIn? 8 rest <|> Numeral.int64? chars
  | '+' :: rest => Numeral.int64? rest <|> Numeral.int64? chars
  | _ => Numeral.int64? chars

/-- The words for infinity and not-a-number that start with a dot. They mark a number that cannot be
read. -/
def isDottedWord (text : String) : Bool :=
  text ∈ [".inf", ".Inf", ".INF", "+.inf", "+.Inf", "+.INF", "-.inf", "-.Inf", "-.INF", ".nan",
    ".NAN"]

/-- What a plain scalar without a tag stands for. -/
def plain? (text : String) : Option Scalar :=
  let chars := text.toList
  match integer? chars with
  | some i => some (.integer i)
  | none =>
      if text = "~" || text = "null" then some .nil
      else if text = "true" then some (.boolean true)
      else if text = "false" then some (.boolean false)
      else if isDottedWord text then none
      else
        match Numeral.binary64? chars with
        | some x => some (.float x)
        | none => some (.text text)

/-- What a plain scalar with a tag of the common schema stands for; text that does not fit its tag
counts as nil. -/
def tagged? (tag text : String) : Option Scalar :=
  match tag with
  | "!!bool" =>
      some <|
        if text = "true" then .boolean true
        else if text = "false" then .boolean false
        else .nil
  | "!!int" => some ((Numeral.int64? text.toList).elim .nil .integer)
  | "!!float" =>
      if isDottedWord text then none
      else some ((Numeral.binary64? text.toList).elim .nil .float)
  | "!!null" => some .nil
  | _ => some (.text text)

/-- Line ends in the order of the text: a line end with a return before it, or a return alone, is a
line end. -/
def unifyLineEnds : List Char → List Char
  | '\r' :: '\n' :: rest => '\n' :: unifyLineEnds rest
  | '\r' :: rest => '\n' :: unifyLineEnds rest
  | c :: rest => c :: unifyLineEnds rest
  | [] => []

/-- Joins two lines of a scalar: one line end becomes a space, `n + 1` of them become `n`. -/
def foldBreaks (count : Nat) : List Char :=
  if count ≤ 1 then [' '] else List.replicate (count - 1) '\n'

/-- Drops blanks and line ends, and counts the line ends. The first argument bounds the work. -/
def skipFolded : Nat → Nat → List Char → Nat × List Char
  | 0, count, chars => (count, chars)
  | limit + 1, count, chars =>
      match chars with
      | '\n' :: rest => skipFolded limit (count + 1) rest
      | ' ' :: rest => skipFolded limit count rest
      | '\t' :: rest => skipFolded limit count rest
      | _ => (count, chars)

/-- The folded line ends at a break inside quotes, and what follows them. -/
def foldedBreak (chars : List Char) : List Char × List Char :=
  let (count, rest) := skipFolded chars.length 0 chars
  (foldBreaks count, rest)

/-- Whether a run of blanks at the front ends in a line end. -/
def breaksHere (chars : List Char) : Bool :=
  (chars.dropWhile fun c => c = ' ' || c = '\t').head? = some '\n'

/-- The rest of a scalar in single quotes after the opening one. -/
def single? : Nat → List Char → Option (List Char × List Char)
  | 0, _ => none
  | limit + 1, chars =>
      if breaksHere chars then do
        let (folded, after) := foldedBreak chars
        let (body, final) ← single? limit after
        return (folded ++ body, final)
      else
        match chars with
        | '\'' :: '\'' :: rest => (single? limit rest).map fun read => ('\'' :: read.1, read.2)
        | '\'' :: rest => some ([], rest)
        | c :: rest => (single? limit rest).map fun read => (c :: read.1, read.2)
        | [] => none

/-- The character that an escape of one letter stands for. -/
def letter? : Char → Option Char
  | '0' => some '\x00'
  | 'a' => some '\x07'
  | 'b' => some '\x08'
  | 't' => some '\t'
  | '\t' => some '\t'
  | 'n' => some '\n'
  | 'v' => some '\x0b'
  | 'f' => some '\x0c'
  | 'r' => some '\r'
  | 'e' => some '\x1b'
  | ' ' => some ' '
  | '"' => some '"'
  | '/' => some '/'
  | '\\' => some '\\'
  | 'N' => some (Char.ofNat 0x85)
  | '_' => some (Char.ofNat 0xA0)
  | 'L' => some (Char.ofNat 0x2028)
  | 'P' => some (Char.ofNat 0x2029)
  | _ => none

/-- A code point in a fixed count of hexadecimal digits. -/
def codePoint? (count : Nat) (chars : List Char) : Option (Char × List Char) := do
  let front := chars.take count
  if front.length ≠ count then none
  let code ← Numeral.natIn? 16 front
  if code < 0xD800 || (0xDFFF < code && code < 0x110000) then
    return (Char.ofNat code, chars.drop count)
  else none

/-- The rest of a scalar in double quotes after the opening one. -/
def double? : Nat → List Char → Option (List Char × List Char)
  | 0, _ => none
  | limit + 1, chars =>
      if breaksHere chars then do
        let (folded, after) := foldedBreak chars
        let (body, final) ← double? limit after
        return (folded ++ body, final)
      else
        match chars with
        | '"' :: rest => some ([], rest)
        | '\\' :: '\n' :: rest =>
            double? limit (rest.dropWhile fun c => c = ' ' || c = '\t')
        | '\\' :: c :: rest => do
            let (read, after) ←
              match c with
              | 'x' => codePoint? 2 rest
              | 'u' => codePoint? 4 rest
              | 'U' => codePoint? 8 rest
              | _ => (letter? c).map fun read => (read, rest)
            let (body, final) ← double? limit after
            return (read :: body, final)
        | c :: rest => (double? limit rest).map fun read => (c :: read.1, read.2)
        | [] => none

/-- A scalar in quotes at the front; the outer option says whether there is a quote. -/
def quoted? (chars : List Char) : Option (Option (String × List Char)) :=
  let finish (body : Option (List Char × List Char)) :=
    body.map fun read => (String.ofList read.1, read.2)
  match chars with
  | '\'' :: rest => some (finish (single? (rest.length + 1) rest))
  | '"' :: rest => some (finish (double? (rest.length + 1) rest))
  | _ => none

end Yaml

end Settings

end MailProvision
