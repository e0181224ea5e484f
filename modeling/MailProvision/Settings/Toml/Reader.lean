import MailProvision.Settings.Toml.Moment
import MailProvision.Settings.Toml.Text
import MailProvision.Settings.Toml.Tree

/-!
# Settings in TOML

A strict reader of TOML documents. Integers have to fit into 64 bits with a sign, a number beyond
the greatest float is refused, and a table or key that is defined twice is an error. Dates and
times become texts. It accepts what the `toml` package accepts in its version 0.8.
-/

namespace MailProvision

namespace Settings

namespace Toml

/-- The characters that numbers and words are made of. -/
def isWordChar (c : Char) : Bool :=
  isBareKeyChar c || c = '+' || c = '.'

/-- Removes single underscores between digits; any other underscore makes the text unusable. -/
def joinDigits? (isDigit : Char → Bool) : List Char → Option (List Char)
  | [] => none
  | [c] => if isDigit c then some [c] else none
  | c :: '_' :: rest => if isDigit c then (joinDigits? isDigit rest).map (c :: ·) else none
  | c :: rest => if isDigit c then (joinDigits? isDigit rest).map (c :: ·) else none

/-- Decimal digits without superfluous zeros in front. -/
def wholePart? (chars : List Char) : Option (List Char) :=
  match joinDigits? Char.isDigit chars with
  | some ('0' :: _ :: _) => none
  | digits? => digits?

/-- An integer in one of the four bases; only decimal ones take a sign. -/
def integer? (chars : List Char) : Option Int :=
  let based (base : Nat) (rest : List Char) : Option Int :=
    (joinDigits? (fun c => (Numeral.digitIn? base c).isSome) rest).bind fun digits =>
      (Numeral.natIn? base digits).map Int.ofNat
  let value? :=
    match chars with
    | '0' :: 'x' :: rest => based 16 rest
    | '0' :: 'o' :: rest => based 8 rest
    | '0' :: 'b' :: rest => based 2 rest
    | _ =>
        let (negative, unsigned) := Numeral.splitSign chars
        ((wholePart? unsigned).bind Numeral.nat?).map fun n => if negative then -(n : Int) else n
  value?.filter Numeral.isInt64

/-- The part of a float after its whole part, without underscores. -/
def floatTail? (chars : List Char) : Option (List Char) :=
  let exponent? (rest : List Char) : Option (List Char) :=
    let signed := rest.takeWhile fun c => c = '+' || c = '-'
    if 1 < signed.length then none
    else (joinDigits? Char.isDigit (rest.drop signed.length)).map fun digits =>
      'e' :: signed ++ digits
  match chars with
  | '.' :: rest =>
      let places := rest.takeWhile fun c => c.isDigit || c = '_'
      match joinDigits? Char.isDigit places, rest.drop places.length with
      | some digits, [] => some ('.' :: digits)
      | some digits, c :: after =>
          if c = 'e' || c = 'E' then (exponent? after).map fun tail => '.' :: digits ++ tail
          else none
      | none, _ => none
  | c :: rest => if c = 'e' || c = 'E' then exponent? rest else none
  | [] => none

/-- A float, or one of the words for infinity and not-a-number. -/
def float? (chars : List Char) : Option Binary64 :=
  let (negative, unsigned) := Numeral.splitSign chars
  if unsigned = ['i', 'n', 'f'] then some (.infinite negative)
  else if unsigned = ['n', 'a', 'n'] then some .nan
  else do
    let front := unsigned.takeWhile fun c => c.isDigit || c = '_'
    let whole ← wholePart? front
    let tail ← floatTail? (unsigned.drop front.length)
    let x ← Numeral.fraction? negative (whole ++ tail)
    if x = .infinite false then none else some x

/-- A value without quotes or brackets. -/
def word? (chars : List Char) : Option (Scalar × List Char) :=
  match moment? chars with
  | some read => read.map fun (text, rest) => (.text text, rest)
  | none =>
      let word := chars.takeWhile isWordChar
      let rest := chars.drop word.length
      if word = "true".toList then some (.boolean true, rest)
      else if word = "false".toList then some (.boolean false, rest)
      else
        match integer? word, float? word with
        | some i, _ => some (.integer i, rest)
        | none, some x => some (.float x, rest)
        | none, none => none

mutual

/-- A value. The first argument bounds the work. -/
def value? (origin : Origin) : Nat → List Char → Option (Value × List Char)
  | 0, _ => none
  | limit + 1, chars =>
      match string? chars with
      | some read => read.map fun (text, rest) => (.scalar origin (.text text), rest)
      | none =>
          match chars with
          | '[' :: rest => do
              let (items, after) ← items? origin limit rest
              return (.array origin items, after)
          | '\x7b' :: rest =>
              match skipSpaces rest with
              | '\x7d' :: after => some (.table origin [], after)
              | _ => do
                  let (node, after) ← inline? origin limit (Node.fresh .dotted) rest
                  return (node.toValue origin, after)
          | _ => (word? chars).map fun (content, rest) => (.scalar origin content, rest)

/-- The items of an array up to its closing bracket; a comma may follow the last one. -/
def items? (origin : Origin) : Nat → List Char → Option (List Value × List Char)
  | 0, _ => none
  | limit + 1, chars => do
      let start ← skipLines? (chars.length + 1) chars
      match start with
      | ']' :: rest => return ([], rest)
      | _ =>
          let (first, after) ← value? origin limit start
          match ← skipLines? (after.length + 1) after with
          | ',' :: rest =>
              let (others, final) ← items? origin limit rest
              return (first :: others, final)
          | ']' :: rest => return ([first], rest)
          | _ => none

/-- The entries of a table on one line up to its closing brace, added to those read before. -/
def inline? (origin : Origin) : Nat → Node → List Char → Option (Node × List Char)
  | 0, _, _ => none
  | limit + 1, before, chars => do
      let (path, afterKey) ← key? (chars.length + 1) chars
      match afterKey with
      | '=' :: rest =>
          let (value, after) ← value? origin limit (skipSpaces rest)
          let node ← Node.setDotted? (.leaf value) path before
          match skipSpaces after with
          | ',' :: more => inline? origin limit node more
          | '\x7d' :: final => return (node, final)
          | _ => none
      | _ => none

end

/-- A header line after its first bracket. -/
def header? (document : Document) (chars : List Char) : Option (Document × List Char) :=
  match chars with
  | '[' :: rest => do
      let (path, after) ← key? (rest.length + 1) rest
      match after with
      | ']' :: ']' :: final => return (← document.addHeader? path, final)
      | _ => none
  | _ => do
      let (path, after) ← key? (chars.length + 1) chars
      match after with
      | ']' :: final => return (← document.openHeader? path, final)
      | _ => none

/-- A line with a key and a value. -/
def assignment? (origin : Origin) (document : Document) (chars : List Char) :
    Option (Document × List Char) := do
  let (path, afterKey) ← key? (chars.length + 1) chars
  match afterKey with
  | '=' :: rest =>
      let (value, after) ← value? origin (2 * rest.length + 2) (skipSpaces rest)
      return (← document.set? path value, after)
  | _ => none

/-- The lines of a document. The first argument bounds their number. -/
def lines? (origin : Origin) : Nat → Document → List Char → Option Document
  | 0, _, _ => none
  | limit + 1, document, chars => do
      let start := skipSpaces chars
      let (next, after) ←
        match start with
        | [] => some (document, [])
        | '#' :: _ => some (document, start)
        | '[' :: rest => header? document rest
        | _ =>
            if (newline? start).isSome then some (document, start)
            else assignment? origin document start
      let rest ← skipComment? (skipSpaces after)
      match rest with
      | [] => some next
      | _ => lines? origin limit next (← newline? rest)

/-- Reads a whole document; a byte order mark in front of it is ignored. -/
def read? (origin : Origin) (chars : List Char) : Option Value :=
  let body :=
    match chars with
    | c :: rest => if c.toNat = 0xFEFF then rest else chars
    | [] => []
  (lines? origin (body.length + 1) .empty body).map fun document => document.root.toValue origin

end Toml

end Settings

end MailProvision
