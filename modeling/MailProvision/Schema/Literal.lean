/-!
# Text literals

A text literal of the query language stands between single quotes; a quote inside it is written
twice. `Literal.read?` reads back what `Literal.body` writes, whatever the text is.
-/

namespace MailProvision

namespace Literal

/-- A text as the body of a literal: every quote is written twice. -/
def body : List Char → List Char
  | [] => []
  | c :: rest => if c = '\'' then '\'' :: '\'' :: body rest else c :: body rest

/-- The value of a literal whose opening quote has been read, with what follows its closing
quote. -/
def read? : List Char → Option (List Char × List Char)
  | [] => none
  | '\'' :: '\'' :: rest => (read? rest).map fun (value, after) => ('\'' :: value, after)
  | c :: rest =>
      if c = '\'' then some ([], rest)
      else (read? rest).map fun (value, after) => (c :: value, after)

theorem read?_body_append (text after : List Char) (open_end : after.head? ≠ some '\'') :
    read? (body text ++ '\'' :: after) = some (text, after) := by
  induction text with
  | nil =>
      rcases after with _ | ⟨c, rest⟩
      · rfl
      · have other : c ≠ '\'' := by simpa using open_end
        simp [body, read?, other]
  | cons c rest ih =>
      by_cases quote : c = '\''
      · simp [body, read?, quote, ih]
      · simp [body, read?, quote, ih]

example : read? "it''s', now())".toList = some ("it's".toList, ", now())".toList) := by
  decide +kernel

end Literal

end MailProvision
