import MailProvision.Text.Printable

/-!
# Quoted text

A text between double quotes on one line: quotes and backslashes carry a backslash, four controls
have a letter of their own, and every other character without a visible shape is written as its
code point in hexadecimal between braces.
-/

namespace MailProvision

namespace Quoted

/-- The hexadecimal digits of a number, in small letters and without leading zeros. -/
def hexDigits (n : Nat) : List Char :=
  Nat.toDigits 16 n

/-- A character by its code point. -/
def codePoint (c : Char) : List Char :=
  '\\' :: 'u' :: '\x7b' :: (hexDigits c.toNat ++ ['\x7d'])

/-- The written form of one character. -/
def encodeChar (c : Char) : List Char :=
  if c = '\x00' then ['\\', '0']
  else if c = '\t' then ['\\', 't']
  else if c = '\r' then ['\\', 'r']
  else if c = '\n' then ['\\', 'n']
  else if c = '\\' then ['\\', '\\']
  else if c = '"' then ['\\', '"']
  else if Text.isPrintable c && !Text.isExtending c then [c]
  else codePoint c

/-- The written form of a list of characters, quotes included. -/
def encodeChars (chars : List Char) : List Char :=
  '"' :: (chars.flatMap encodeChar ++ ['"'])

/-- The written form of a text, quotes included. -/
def encode (text : String) : String :=
  String.ofList (encodeChars text.toList)

example : encode "a\"b\n" = "\"a\\\"b\\n\"" := by decide +kernel

end Quoted

end MailProvision
