/-!
# Small letters in names

Names of settings are written in ASCII and compared without regard to case. A character can only
match an ASCII letter if its small form is one: the ASCII capitals and the Kelvin sign are all such
characters, so they are the only ones this module changes.
-/

namespace MailProvision

namespace Text

/-- The small form of a character, where that form is an ASCII letter; other characters stay. -/
def lowerChar (c : Char) : Char :=
  if c.toNat = 0x212A then 'k' else c.toLower

/-- The text with every character replaced by its small form. -/
def lower (text : String) : String :=
  String.ofList (text.toList.map lowerChar)

end Text

end MailProvision
