import MailProvision.Config.Reading
import MailProvision.Settings.Environment

/-!
# Loading the configuration

The configuration comes from one file, with the environment on top of it. Without a given path the
first of the usual places that exists is taken.
-/

namespace MailProvision

namespace Config

/-- The places where a configuration is looked for, in order. -/
def searchPaths : List String :=
  ["./config.json", "../config.json", "../fallback/config.json", "./config.toml",
    "/etc/fsmtp/config.toml"]

/-- The given path, or the first usual place where something is. -/
def locate (tree : FileTree) (workingDirectory : Location) (path : Option String) :
    Option String :=
  match path with
  | some path => some path
  | none => searchPaths.find? (tree.pathExists workingDirectory)

/-- The settings of a file and of the environment as one table. -/
def gather (library : Settings.Library) (tree : FileTree) (workingDirectory : Location)
    (environment : List (String × String)) (path : String) :
    Except Settings.ReadFault Settings.Value := do
  let file ← Settings.File.layer library tree workingDirectory path
  return Settings.Entries.collect library.order [file, Settings.Environment.layer environment]

/-- The configuration in a file, with the environment on top. -/
def fromFile (library : Settings.Library) (tree : FileTree) (workingDirectory : Location)
    (environment : List (String × String)) (path : String) : Except ConfigFault Config := do
  let settings ←
    (gather library tree workingDirectory environment path).mapError (ConfigFault.unreadable path)
  (read settings).mapError (ConfigFault.unusable path)

/-- The configuration at a path, or at the first usual place where something is. -/
def load (library : Settings.Library) (tree : FileTree) (workingDirectory : Location)
    (environment : List (String × String)) (path : Option String) : Except ConfigFault Config :=
  match locate tree workingDirectory path with
  | some path => fromFile library tree workingDirectory environment path
  | none => .error .noFile

/-- The options of the schema for a located configuration; without one, the usual options. -/
def schemaOptions (library : Settings.Library) (tree : FileTree) (workingDirectory : Location)
    (environment : List (String × String)) (located : Option String) :
    Except ConfigFault Schema.Options :=
  match located with
  | some path => (fromFile library tree workingDirectory environment path).map fun config =>
      config.schema.options
  | none => .ok {}

end Config

end MailProvision
