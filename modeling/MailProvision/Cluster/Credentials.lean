import MailProvision.Text.Blank
import MailProvision.Text.Quoted

/-!
# Connection credentials

The hosts of a cluster, the port they listen on, and an optional user name and password. The pair
counts as authentication only when both halves are there.

`inspect` and `inspectIndented` show the credentials to a person. They say whether there is a
password and never what it is.
-/

namespace MailProvision

/-- Where a cluster is reached and who connects. -/
structure Credentials where
  hosts : List String
  port : UInt16
  username : Option String
  password : Option String
deriving DecidableEq, Repr

namespace Credentials

/-- The port of the native transport. -/
def defaultPort : UInt16 := 9042

/-- Credentials without a user. -/
def ofHosts (hosts : List String) (port : UInt16) : Credentials :=
  { hosts, port, username := none, password := none }

/-- The same contact with a user name and a password. -/
def withAuthentication (credentials : Credentials) (username password : String) : Credentials :=
  { credentials with username := some username, password := some password }

/-- The parts of a comma separated list that are not blank, without the white space around them. -/
def parseHosts (list : String) : List String :=
  ((Text.splitChars ',' list.toList).map Text.trimChars).filterMap fun host =>
    if host.isEmpty then none else some (String.ofList host)

/-- User name and password, only when both are present. -/
def authentication (credentials : Credentials) : Option (String × String) :=
  match credentials.username, credentials.password with
  | some username, some password => some (username, password)
  | _, _ => none

/-- A host and a port joined by a colon. A host that holds a colon and does not start with a bracket
is put in brackets. -/
def contactPoint (port : UInt16) (host : String) : String :=
  let chars := host.toList
  let written := if ':' ∈ chars ∧ chars.head? ≠ some '[' then '[' :: (chars ++ [']']) else chars
  String.ofList (written ++ ':' :: Nat.toDigits 10 port.toNat)

/-- One contact point for each host, in order. -/
def contactPoints (credentials : Credentials) : List String :=
  credentials.hosts.map (contactPoint credentials.port)

/-- The hosts joined by commas, as messages show them. -/
def hostList (credentials : Credentials) : String :=
  ",".intercalate credentials.hosts

/-- What stands for a password wherever credentials are shown. -/
def redacted : String := "<redacted>"

/-- A list of texts between brackets on one line. -/
def inspectList (texts : List String) : String :=
  "[" ++ ", ".intercalate (texts.map Quoted.encode) ++ "]"

/-- An optional text on one line. -/
def inspectOption : Option String → String
  | none => "None"
  | some text => "Some(" ++ Quoted.encode text ++ ")"

/-- The credentials on one line, with the password hidden. -/
def inspect (credentials : Credentials) : String :=
  "ConnectionCredentials \x7b hosts: " ++ inspectList credentials.hosts ++
    ", port: " ++ toString credentials.port.toNat ++
    ", username: " ++ inspectOption credentials.username ++
    ", password: " ++ inspectOption (credentials.password.map fun _ => redacted) ++ " \x7d"

/-- A list of texts with one line for each, for a field of an indented record. -/
def inspectListIndented (texts : List String) : String :=
  if texts.isEmpty then "[]"
  else "[\n" ++ String.join (texts.map fun text => "        " ++ Quoted.encode text ++ ",\n") ++
    "    ]"

/-- An optional text with its content on a line of its own, for a field of an indented record. -/
def inspectOptionIndented : Option String → String
  | none => "None"
  | some text => "Some(\n        " ++ Quoted.encode text ++ ",\n    )"

/-- The credentials with one line for each field, with the password hidden. -/
def inspectIndented (credentials : Credentials) : String :=
  "ConnectionCredentials \x7b\n    hosts: " ++ inspectListIndented credentials.hosts ++
    ",\n    port: " ++ toString credentials.port.toNat ++
    ",\n    username: " ++ inspectOptionIndented credentials.username ++
    ",\n    password: " ++ inspectOptionIndented (credentials.password.map fun _ => redacted) ++
    ",\n\x7d"

end Credentials

end MailProvision
