import MailProvision.Settings.Order

/-!
# The library of settings

What a run leaves to the packages that read settings. The formats that the program documents have
readers of their own; the other formats that the `config` package knows by default (INI, JSON5,
RON) are read by whatever reader the library brings along. The library also decides the orders that
the package leaves open, since it keeps formats and tables in hash maps: which format is tried
first, and which entry of a table is taken up first. What holds of every library holds of all of
them.
-/

namespace MailProvision

namespace Settings

/-- A format that is known only by its reader. -/
inductive Dialect where
  | ini
  | json5
  | ron
deriving DecidableEq, Repr

/-- The formats of settings files. -/
inductive Format where
  | json
  | toml
  | yaml
  | dialect (dialect : Dialect)
deriving DecidableEq, Repr

namespace Format

/-- Every format once. -/
def all : List Format :=
  [toml, json, yaml, dialect .ini, dialect .json5, dialect .ron]

/-- The extensions of the files in a format. -/
def extensions : Format → List String
  | json => ["json"]
  | toml => ["toml"]
  | yaml => ["yaml", "yml"]
  | dialect .ini => ["ini"]
  | dialect .json5 => ["json5"]
  | dialect .ron => ["ron"]

/-- The name of a format. -/
def name : Format → String
  | json => "JSON"
  | toml => "TOML"
  | yaml => "YAML"
  | dialect .ini => "INI"
  | dialect .json5 => "JSON5"
  | dialect .ron => "RON"

end Format

/-- What the packages bring along, and what they do not promise. -/
structure Library where
  /-- The formats in the order in which they are tried. -/
  formats : List Format
  /-- Reads a text of a dialect as one value, if it is such a text. -/
  read? : Dialect → Origin → List Char → Option Value
  /-- The order in which the entries of a file are taken up. -/
  fileOrder : Order
  /-- The order in which the entries of all sources together are taken up. -/
  order : Order
  complete : formats.Perm Format.all
  /-- Integers are read as 64 bits with a sign, and tables as maps. -/
  fits : ∀ {dialect origin chars value}, read? dialect origin chars = some value → value.Fits

namespace Library

/-- The known extensions with their formats. -/
def registered (library : Library) : List (String × Format) :=
  library.formats.flatMap fun format => format.extensions.map fun extension => (extension, format)

/-- A library without readers of its own, which takes up entries as they are written. -/
def plain : Library where
  formats := Format.all
  read? _ _ _ := none
  fileOrder := .written
  order := .written
  complete := .refl _
  fits := by rintro _ _ _ _ ⟨⟩

end Library

end Settings

end MailProvision
