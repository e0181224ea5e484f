import MailProvision.Schema.Statement

/-!
# Statements as a script

A script lists statements for an operator to read: a comment with the position and the label, and a
remark if the statement is not idempotent, then the text ended by a semicolon and an empty line.
-/

namespace MailProvision

namespace Script

/-- The comment line above a statement. -/
def header (index : Nat) (statement : Statement) : String :=
  let remark := if statement.isIdempotent then "" else ", NOT idempotent"
  "-- #" ++ toString index ++ " " ++ statement.label ++ remark ++ "\n"

/-- A statement with its comment and the empty line after it. -/
def entry (index : Nat) (statement : Statement) : String :=
  header index statement ++ statement.text ++ ";\n\n"

/-- The statements in order, counted from `start`. -/
def renderFrom (start : Nat) : List Statement → String
  | [] => ""
  | statement :: rest => entry start statement ++ renderFrom (start + 1) rest

/-- The whole script. -/
def render (statements : List Statement) : String :=
  renderFrom 0 statements

end Script

end MailProvision
