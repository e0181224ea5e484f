import MailProvision.Numeral.Reading

/-!
# Keys and strings of TOML

Strings in single or double quotes, on one line or, with the quotes written three times, on several.
Line ends inside a string count as one newline character however they are written, as in the `toml`
package.
-/

namespace MailProvision

namespace Settings

namespace Toml

/-- Blanks inside a line. -/
def isSpace (c : Char) : Bool :=
  c = ' ' || c = '\t'

/-- Drops the blanks at the front of a line. -/
def skipSpaces (chars : List Char) : List Char :=
  chars.dropWhile isSpace

/-- Controls that may not stand in strings and comments. -/
def isForbidden (c : Char) : Bool :=
  (c.toNat < 0x20 && c ≠ '\t') || c.toNat = 0x7F

/-- Drops a line end off the front. -/
def newline? : List Char → Option (List Char)
  | '\n' :: rest => some rest
  | '\r' :: '\n' :: rest => some rest
  | _ => none

/-- Drops a comment off the front, up to its line end. -/
def skipComment? : List Char → Option (List Char)
  | '#' :: rest =>
      let after := rest.dropWhile fun c => !isForbidden c
      if after.isEmpty || (newline? after).isSome then some after else none
  | chars => some chars

/-- Drops blanks, comments and line ends. The first argument bounds the number of lines. -/
def skipLines? : Nat → List Char → Option (List Char)
  | 0, _ => none
  | limit + 1, chars => do
      let rest ← skipComment? (skipSpaces chars)
      match newline? rest with
      | some after => skipLines? limit after
      | none => some rest

/-- A character given by its code point. -/
def scalarValue? (code : Nat) : Option Char :=
  if code < 0xD800 || (0xDFFF < code && code < 0x110000) then some (Char.ofNat code) else none

/-- The character that an escape stands for, after its backslash. -/
def escape? : List Char → Option (Char × List Char)
  | 'b' :: rest => some ('\x08', rest)
  | 't' :: rest => some ('\t', rest)
  | 'n' :: rest => some ('\n', rest)
  | 'f' :: rest => some ('\x0c', rest)
  | 'r' :: rest => some ('\r', rest)
  | '"' :: rest => some ('"', rest)
  | '\\' :: rest => some ('\\', rest)
  | 'u' :: rest => unit? 4 rest
  | 'U' :: rest => unit? 8 rest
  | _ => none
where
  /-- A code point in a fixed count of hexadecimal digits. -/
  unit? (count : Nat) (chars : List Char) : Option (Char × List Char) :=
    let front := chars.take count
    if front.length = count then do
      let c ← scalarValue? (← Numeral.natIn? 16 front)
      return (c, chars.drop count)
    else none

/-- The rest of a string in double quotes after the opening one. -/
def basicString? : Nat → List Char → Option (List Char × List Char)
  | 0, _ => none
  | _, [] => none
  | _ + 1, '"' :: rest => some ([], rest)
  | limit + 1, '\\' :: rest => do
      let (c, after) ← escape? rest
      let (body, final) ← basicString? limit after
      return (c :: body, final)
  | limit + 1, c :: rest =>
      if isForbidden c then none
      else do
        let (body, final) ← basicString? limit rest
        return (c :: body, final)

/-- The rest of a string in single quotes after the opening one. -/
def literalString? (chars : List Char) : Option (List Char × List Char) :=
  let body := chars.takeWhile fun c => c ≠ '\'' && !isForbidden c
  match chars.drop body.length with
  | '\'' :: rest => some (body, rest)
  | _ => none

/-- Drops the line end right after the opening quotes of a string of several lines. -/
def skipFirstNewline (chars : List Char) : List Char :=
  (newline? chars).getD chars

/-- Three quotes close a string of several lines. Up to two more right before them belong to it. -/
def closing? (quote : Char) (chars : List Char) : Option (List Char × List Char) :=
  let count := (chars.takeWhile (· = quote)).length
  if count < 3 then none
  else
    let kept := min (count - 3) 2
    some (List.replicate kept quote, chars.drop (kept + 3))

/-- Drops what a backslash at the end of a line joins: blanks and line ends up to the next text. -/
def skipJoined : Nat → List Char → List Char
  | 0, chars => chars
  | limit + 1, chars =>
      let rest := skipSpaces chars
      match newline? rest with
      | some after => skipJoined limit after
      | none => rest

/-- The rest of a string of several lines in double quotes. -/
def basicLines? : Nat → List Char → Option (List Char × List Char)
  | 0, _ => none
  | limit + 1, chars =>
      match closing? '"' chars with
      | some closed => some closed
      | none =>
          match newline? chars with
          | some after => do
              let (body, final) ← basicLines? limit after
              return ('\n' :: body, final)
          | none =>
              match chars with
              | [] => none
              | '\\' :: rest =>
                  if (newline? (skipSpaces rest)).isSome then
                    basicLines? limit (skipJoined rest.length rest)
                  else do
                    let (c, after) ← escape? rest
                    let (body, final) ← basicLines? limit after
                    return (c :: body, final)
              | c :: rest =>
                  if isForbidden c then none
                  else do
                    let (body, final) ← basicLines? limit rest
                    return (c :: body, final)

/-- The rest of a string of several lines in single quotes. -/
def literalLines? : Nat → List Char → Option (List Char × List Char)
  | 0, _ => none
  | limit + 1, chars =>
      match closing? '\'' chars with
      | some closed => some closed
      | none =>
          match newline? chars with
          | some after => do
              let (body, final) ← literalLines? limit after
              return ('\n' :: body, final)
          | none =>
              match chars with
              | [] => none
              | c :: rest =>
                  if isForbidden c then none
                  else do
                    let (body, final) ← literalLines? limit rest
                    return (c :: body, final)

/-- A string of any kind at the front; the outer option says whether there is a quote. -/
def string? (chars : List Char) : Option (Option (String × List Char)) :=
  let limit := chars.length + 1
  let finish (body : Option (List Char × List Char)) :=
    body.map fun read => (String.ofList read.1, read.2)
  match chars with
  | '"' :: '"' :: '"' :: rest => some (finish (basicLines? limit (skipFirstNewline rest)))
  | '\'' :: '\'' :: '\'' :: rest => some (finish (literalLines? limit (skipFirstNewline rest)))
  | '"' :: rest => some (finish (basicString? limit rest))
  | '\'' :: rest => some (finish (literalString? rest))
  | _ => none

/-- The characters of keys without quotes. -/
def isBareKeyChar (c : Char) : Bool :=
  ('a' ≤ c && c ≤ 'z') || ('A' ≤ c && c ≤ 'Z') || ('0' ≤ c && c ≤ '9') || c = '_' || c = '-'

/-- One part of a key: bare, or a string on one line. -/
def simpleKey? (chars : List Char) : Option (String × List Char) :=
  match chars with
  | '"' :: rest =>
      (basicString? (rest.length + 1) rest).map fun read => (String.ofList read.1, read.2)
  | '\'' :: rest => (literalString? rest).map fun read => (String.ofList read.1, read.2)
  | _ =>
      match chars.takeWhile isBareKeyChar with
      | [] => none
      | name => some (String.ofList name, chars.drop name.length)

/-- The parts of a key joined by dots. The first argument bounds their number. -/
def key? : Nat → List Char → Option (List String × List Char)
  | 0, _ => none
  | limit + 1, chars => do
      let (part, after) ← simpleKey? (skipSpaces chars)
      match skipSpaces after with
      | '.' :: rest =>
          let (parts, final) ← key? limit rest
          return (part :: parts, final)
      | rest => return ([part], rest)

end Toml

end Settings

end MailProvision
