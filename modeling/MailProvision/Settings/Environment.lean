import MailProvision.Settings.Merge

/-!
# Settings from the environment

Variables whose name starts with the prefix, in any case, are settings. What follows the prefix is
a key path with two underscores between its parts. A value is read as a truth value, an integer or
a float where it looks like one, and is a text otherwise. The environment source of the `config`
package does this if it is told to parse values; the list has the variables in the order in which
they are taken up.
-/

namespace MailProvision

namespace Settings

namespace Environment

/-- What the names of settings start with, in small letters. -/
def namePrefix : List Char := "fsmtp__".toList

/-- Every two underscores, from the left, as one dot. -/
def dotted : List Char → List Char
  | '_' :: '_' :: rest => '.' :: dotted rest
  | c :: rest => c :: dotted rest
  | [] => []

/-- The key that a variable's name stands for, if it is a setting. -/
def key? (name : String) : Option String :=
  let chars := name.toList.map Text.lowerChar
  if namePrefix.isPrefixOf chars then
    some (String.ofList (dotted (chars.drop namePrefix.length)))
  else none

/-- What the text of a variable stands for. -/
def content (text : String) : Scalar :=
  match Text.lower text with
  | "true" => .boolean true
  | "false" => .boolean false
  | _ =>
      match Numeral.int64? text.toList with
      | some i => .integer i
      | none =>
          match Numeral.binary64? text.toList with
          | some x => .float x
          | none => .text text

/-- The settings among the variables. -/
def layer (environment : List (String × String)) : Entries :=
  environment.foldl (fun entries (name, text) =>
    match key? name with
    | none => entries
    | some key => Entries.put key (.scalar (some .environment) (content text)) entries) []

end Environment

end Settings

end MailProvision
