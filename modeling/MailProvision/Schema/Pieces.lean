import MailProvision.Schema.Script

/-!
# The pieces of a script

How the query language cuts a script into statements. Two dashes begin a comment, which ends with
its line, and a single quote begins a literal, which ends with the next one; inside either nothing
else has a meaning. The semicolons that are left end the statements.

A quote that is written twice inside a literal ends it and begins another one at once, so that the
cuts are where they would be if the two were one.
-/

namespace MailProvision

namespace Script

/-- What the characters at a place of a script belong to. -/
inductive Zone where
  | statement
  | comment
  | literal
deriving DecidableEq, Repr

/-- Puts a character in front of the first piece. -/
def extendFirst (c : Char) : List (List Char) → List (List Char)
  | [] => [[c]]
  | piece :: pieces => (c :: piece) :: pieces

/-- The texts between the semicolons that end statements, without comments; there is always at
least one. -/
def cut : Zone → List Char → List (List Char)
  | _, [] => [[]]
  | .comment, c :: rest =>
      if c = '\n' then extendFirst '\n' (cut .statement rest) else cut .comment rest
  | .literal, c :: rest =>
      extendFirst c (cut (if c = '\'' then .statement else .literal) rest)
  | .statement, '-' :: '-' :: rest => cut .comment rest
  | .statement, c :: rest =>
      if c = ';' then [] :: cut .statement rest
      else extendFirst c (cut (if c = '\'' then .literal else .statement) rest)

/-- The statements of a script in their order, without the white space around them; a piece of
white space is none. -/
def pieces (script : String) : List String :=
  let trimmed := (cut .statement script.toList).map Text.trimChars
  (trimmed.filter fun piece => !piece.isEmpty).map String.ofList

example : pieces "-- one; two\nA ';--''';\n\n;B" = ["A ';--'''", "B"] := by decide +kernel

end Script

end MailProvision
