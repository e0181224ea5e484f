import MailProvision.Text.Blank

/-!
# Schema statements

A statement of the query language with a label for people and a note on what happens when it is
applied again. Its text is kept without white space at either end and without the semicolons that
ended it.
-/

namespace MailProvision

/-- What applying a statement once more does. -/
inductive Repetition where
  /-- Nothing: the statement creates something unless it is there. -/
  | idempotent
  /-- Adds data again. -/
  | append
deriving DecidableEq, Repr

/-- One statement of a provisioning run. -/
structure Statement where
  label : String
  text : String
  repetition : Repetition
deriving DecidableEq, Repr

namespace Statement

/-- Trims the text, drops the semicolons at its end, and trims what is left at the end. -/
def stripChars (chars : List Char) : List Char :=
  Text.trimEndChars (Text.dropEndWhile (· = ';') (Text.trimChars chars))

/-- A statement from a text that may be surrounded by white space and end in semicolons. -/
def ofText (repetition : Repetition) (label text : String) : Statement :=
  { label, text := String.ofList (stripChars text.toList), repetition }

/-- A statement that can be applied again without effect. -/
def idempotent (label text : String) : Statement :=
  ofText .idempotent label text

/-- A statement that adds data each time. -/
def append (label text : String) : Statement :=
  ofText .append label text

/-- Whether the statement can be applied again without effect. -/
def isIdempotent (statement : Statement) : Bool :=
  statement.repetition = .idempotent

end Statement

end MailProvision
