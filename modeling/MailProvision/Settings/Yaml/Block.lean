import MailProvision.Settings.Yaml.Scalar

/-!
# Block scalars of YAML

Texts whose lines are marked off by their indentation, kept line by line after `|` and folded into
paragraphs after `>`, as the `yaml-rust` package does.
-/

namespace MailProvision

namespace Settings

namespace Yaml

/-- What becomes of the line ends after the last line of a block scalar. -/
inductive Chomping where
  | strip
  | clip
  | keep
deriving DecidableEq, Repr

/-- The line of a block scalar that introduces it. -/
structure BlockHeader where
  folded : Bool
  chomping : Chomping
  /-- The indentation of the lines relative to what surrounds them, if it is given. -/
  indentation : Option Nat

/-- Reads the signs after `|` or `>`: a sign for the line ends and a digit, in any order. -/
def blockHeader? (folded : Bool) (chars : List Char) : Option (BlockHeader × List Char) :=
  let step (header : BlockHeader) (c : Char) : BlockHeader :=
    if c = '-' then { header with chomping := .strip }
    else if c = '+' then { header with chomping := .keep }
    else { header with indentation := Numeral.digit? c }
  let signs := chars.takeWhile fun c => c = '-' || c = '+' || ('1' ≤ c && c ≤ '9')
  let rest := chars.drop signs.length
  let line := rest.takeWhile (· ≠ '\n')
  let trimmed := line.dropWhile fun c => c = ' ' || c = '\t'
  let remark := trimmed.isEmpty || (trimmed.head? = some '#' && trimmed.length < line.length)
  if signs.length ≤ 2 && remark then
    some (signs.foldl step { folded, chomping := .clip, indentation := none },
      rest.drop (line.length + 1))
  else none

/-- The number of spaces at the front. -/
def indentOf (line : List Char) : Nat :=
  (line.takeWhile (· = ' ')).length

/-- Splits the first line off, without its line end. -/
def splitLine (chars : List Char) : List Char × List Char :=
  let line := chars.takeWhile (· ≠ '\n')
  (line, chars.drop (line.length + 1))

/-- The indentation of the first line that is not blank. -/
def firstIndent : Nat → List Char → Nat
  | 0, _ => 0
  | limit + 1, chars =>
      let (line, rest) := splitLine chars
      if line.length = indentOf line && !chars.isEmpty then firstIndent limit rest
      else indentOf line

/-- The lines of a block scalar without their indentation, and what follows them. -/
def blockLines (indentation : Nat) : Nat → List Char → List (List Char) × List Char
  | 0, chars => ([], chars)
  | limit + 1, chars =>
      match chars with
      | [] => ([], [])
      | _ =>
          let (line, rest) := splitLine chars
          let spaces := indentOf line
          if spaces < indentation && spaces < line.length then ([], chars)
          else
            let (others, final) := blockLines indentation limit rest
            (line.drop indentation :: others, final)

/-- Whether a line keeps the line ends around it when lines are folded. -/
def keepsBreaks (line : List Char) : Bool :=
  line.head? = some ' ' || line.head? = some '\t'

/-- Joins lines, each ended by a line end. -/
def joinLines (lines : List (List Char)) : List Char :=
  lines.flatMap fun line => line ++ ['\n']

/-- Folds lines: a single line end between two lines of text becomes a space. -/
def foldLines : List (List Char) → List Char
  | [] => []
  | [line] => line ++ ['\n']
  | line :: next :: rest =>
      if line.isEmpty then '\n' :: foldLines (next :: rest)
      else if keepsBreaks line || keepsBreaks next then line ++ '\n' :: foldLines (next :: rest)
      else if next.isEmpty then
        let others := (next :: rest).dropWhile (·.isEmpty)
        match others with
        | [] => line ++ '\n' :: foldLines (next :: rest)
        | following :: _ =>
            if keepsBreaks following then line ++ '\n' :: foldLines (next :: rest)
            else line ++ foldLines (next :: rest)
      else line ++ ' ' :: foldLines (next :: rest)

/-- The text of a block scalar after its header, for lines indented further than `parent`. -/
def blockText (header : BlockHeader) (parent : Int) (chars : List Char) : String × List Char :=
  let outer := (parent + 1).toNat
  let indentation :=
    match header.indentation with
    | some n => (max parent 0).toNat + n
    | none => max outer (firstIndent (chars.length + 1) chars)
  let (lines, rest) := blockLines indentation (chars.length + 1) chars
  let text := (lines.reverse.dropWhile (·.isEmpty)).reverse
  let ending := lines.drop text.length
  let body := if header.folded then foldLines text else joinLines text
  let chomped :=
    match header.chomping with
    | .strip => body.dropLast
    | .clip => body
    | .keep => body ++ joinLines ending
  (String.ofList chomped, rest)

end Yaml

end Settings

end MailProvision
