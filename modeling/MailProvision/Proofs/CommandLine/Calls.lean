import MailProvision.CommandLine.Arguments

/-!
# Calls of the command

What a call asks for is told by its arguments, wherever among them the path of the configuration is
given, and in whichever way. An argument leads from one reading of the arguments to the next, and so
do the arguments that give the path; what comes after them is read alike.
-/

namespace MailProvision

/-- The ways to call the command. -/
inductive Call where
  | plain
  | all
  | schema
  | script
  | certificate
deriving DecidableEq

namespace Call

/-- The arguments of a call without a path for the configuration. -/
def arguments : Call → List String
  | plain => []
  | all => ["all"]
  | schema => ["schema"]
  | script => ["schema", "--print"]
  | certificate => ["cert"]

/-- What a call asks for. -/
def request (configPath : Option String) : Call → Request
  | plain | all => .provision .all configPath
  | schema => .provision .schema configPath
  | script => .script configPath
  | certificate => .provision .certificate configPath

end Call

namespace Arguments

/-- An argument that is an option, or the value of one, leads from one reading to the next. -/
structure Takes (reading : Reading) (argument : String) (next : Reading) : Prop where
  proper : argument ≠ "--"
  own : reading.awaitsValue = true ∨ subcommand? argument = none
  option : reading.option argument = .ok next

variable {reading next final : Reading} {argument path : String} {given rest : List String}

section Reading

variable (unset : reading.configPath = none) (settled : reading.pending = none)
include settled

include unset

end Reading

end Arguments

end MailProvision
