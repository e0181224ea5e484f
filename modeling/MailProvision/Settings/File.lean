import MailProvision.Files.Tree
import MailProvision.Settings.Json
import MailProvision.Settings.Library
import MailProvision.Settings.Mismatch
import MailProvision.Settings.Toml.Reader
import MailProvision.Settings.Yaml.Reader

/-!
# Settings files

Finding a settings file, telling its format by its extension, and reading it as a table. A path that
leads to no file stands for the same path with one of the known extensions added. So the file source
of the `config` package does.
-/

namespace MailProvision

namespace Settings

/-- Why a settings file cannot be read. -/
inductive ReadFault where
  | unregistered (path : String)
  | notFound (path : String)
  | unreadable (cause : FileFault)
  | notUtf8
  | malformed (format : Format) (name : String)
  | severalDocuments (count : Nat) (name : String)
  | notATable (found : Found) (name : String)
deriving DecidableEq, Repr

namespace ReadFault

/-- The fault in words. -/
def message : ReadFault → String
  | unregistered path =>
      "configuration file \"" ++ path ++ "\" is not of a registered file format"
  | notFound path => "configuration file \"" ++ path ++ "\" not found"
  | unreadable cause => cause.message
  | notUtf8 => "stream did not contain valid UTF-8"
  | malformed format name => "not a valid " ++ format.name ++ " text in " ++ name
  | severalDocuments count name =>
      "Got " ++ toString count ++ " YAML documents, expected 1 in " ++ name
  | notATable found name =>
      "invalid type: " ++ found.describe ++ ", expected a map in " ++ name ++ " in " ++ name

end ReadFault

namespace File

/-- The path of the file that a path stands for, with its format. -/
def find (library : Library) (tree : FileTree) (workingDirectory : Location) (path : String) :
    Except ReadFault (String × Format) :=
  let full := Path.join workingDirectory.toPath path
  if tree.isFile workingDirectory full then
    match library.registered.lookup ((Path.extension? full).getD "") with
    | some format => .ok (full, format)
    | none => .error (.unregistered full)
  else
    let candidate? := library.registered.findSome? fun item =>
      let candidate := Path.extendFileName full ("." ++ item.1)
      if tree.isFile workingDirectory candidate then some (candidate, item.2) else none
    match candidate? with
    | some found => .ok found
    | none => .error (.notFound path)

/-- Reads a text of a format as one value. -/
def parse (library : Library) (format : Format) (name : String) (text : String) :
    Except ReadFault Value :=
  let origin := Origin.file name
  match format with
  | .json => ((Json.read? origin text.toList).map .ok).getD (.error (.malformed format name))
  | .toml => ((Toml.read? origin text.toList).map .ok).getD (.error (.malformed format name))
  | .yaml =>
      match Yaml.read? origin text.toList with
      | none => .error (.malformed format name)
      | some [] => .ok (.table (some origin) [])
      | some [value] => .ok value
      | some documents => .error (.severalDocuments documents.length name)
  | .dialect dialect =>
      ((library.read? dialect origin text.toList).map .ok).getD (.error (.malformed format name))

/-- The entries of the table that a file holds, in the order in which they are taken up. -/
def layer (library : Library) (tree : FileTree) (workingDirectory : Location) (path : String) :
    Except ReadFault Entries := do
  let (full, format) ← find library tree workingDirectory path
  let name := Path.relativeTo workingDirectory.toPath full
  let content ← (tree.read workingDirectory full).mapError .unreadable
  match String.fromUTF8? ⟨content.toArray⟩ with
  | none => .error .notUtf8
  | some text =>
      match ← parse library format name text with
      | .table _ entries => .ok (Entries.arrange library.fileOrder entries)
      | value => .error (.notATable (Found.ofValue value) name)

end File

end Settings

end MailProvision
