import MailProvision.Steps

/-!
# Command line arguments

Reading the arguments of the command from left to right. The first thing that settles the matter, a
fault or a call for help, ends the reading; a value of an option is only looked at once the next
option or the end shows that it is complete.
-/

namespace MailProvision

/-- What help is asked for. -/
inductive HelpTopic where
  | command
  | all
  | schema
  | certificate
  | help
deriving DecidableEq, Repr

/-- What the command is asked to do. -/
inductive Request where
  | help (topic : HelpTopic)
  | version
  /-- Print the script of the schema. -/
  | script (configPath : Option String)
  | provision (selection : Selection) (configPath : Option String)
deriving DecidableEq, Repr

namespace Arguments

/-- Why reading ends early. -/
inductive Halt where
  /-- The arguments make no sense. -/
  | misuse
  /-- Something else than provisioning is asked for. -/
  | request (request : Request)
deriving DecidableEq, Repr

/-- What was read so far on one level of the command line. -/
structure Reading where
  /-- The level: the command itself or one of its subcommands. -/
  topic : HelpTopic
  configPath : Option String := none
  printing : Bool := false
  /-- Whether an option waits for its value to be looked at, and the value, if there is one. -/
  pending : Option (Option String) := none
deriving DecidableEq, Repr

namespace Reading

/-- Takes a value for the path of the configuration: not empty, and only one. -/
def takeConfigPath (reading : Reading) (value : String) : Except Halt Reading :=
  if value.isEmpty || reading.configPath.isSome then .error .misuse
  else .ok { reading with configPath := some value, pending := none }

/-- Looks at the value that waits. -/
def settle (reading : Reading) : Except Halt Reading :=
  match reading.pending with
  | none => .ok reading
  | some none => .error .misuse
  | some (some value) => reading.takeConfigPath value

/-- Starts an option that takes a value. -/
def expectConfigPath (reading : Reading) : Except Halt Reading := do
  let reading ← reading.settle
  return { reading with pending := some none }

/-- Takes an option together with its value. -/
def giveConfigPath (reading : Reading) (value : String) : Except Halt Reading := do
  let reading ← reading.settle
  reading.takeConfigPath value

/-- Answers a call for help. -/
def askHelp (reading : Reading) : Except Halt Reading := do
  let reading ← reading.settle
  throw (.request (.help reading.topic))

/-- Answers a call for the version, which only the command itself has. -/
def askVersion (reading : Reading) : Except Halt Reading := do
  if reading.topic = .command then
    let _ ← reading.settle
    throw (.request .version)
  else throw .misuse

/-- Asks for the script, which only the schema has, and only once. -/
def askScript (reading : Reading) : Except Halt Reading := do
  if reading.topic = .schema then
    let reading ← reading.settle
    if reading.printing then throw .misuse else return { reading with printing := true }
  else throw .misuse

/-- An option with two dashes, its name and the value after an equals sign. -/
def longOption (reading : Reading) (name : String) (value : Option String) :
    Except Halt Reading :=
  match name, value with
  | "config", none => reading.expectConfigPath
  | "config", some value => reading.giveConfigPath value
  | "help", none => reading.askHelp
  | "version", none => reading.askVersion
  | "print", none => reading.askScript
  | _, _ => .error .misuse

/-- Options with one dash and one letter each; what follows a letter that takes a value is the
value. -/
def shortOptions (reading : Reading) : List Char → Except Halt Reading
  | [] => .ok reading
  | 'c' :: [] => reading.expectConfigPath
  | 'c' :: '=' :: rest => reading.giveConfigPath (String.ofList rest)
  | 'c' :: rest => reading.giveConfigPath (String.ofList rest)
  | 'h' :: rest => do
      let reading ← reading.askHelp
      reading.shortOptions rest
  | 'V' :: rest => do
      let reading ← reading.askVersion
      reading.shortOptions rest
  | _ => .error .misuse

/-- Name and value of an option with two dashes, after the dashes. -/
def splitOption (chars : List Char) : String × Option String :=
  let name := chars.takeWhile (· ≠ '=')
  match chars.drop name.length with
  | _ :: value => (String.ofList name, some (String.ofList value))
  | [] => (String.ofList name, none)

/-- Takes an argument that is an option or the value of one. -/
def option (reading : Reading) (argument : String) : Except Halt Reading :=
  match argument.toList with
  | '-' :: '-' :: rest =>
      let (name, value) := splitOption rest
      reading.longOption name value
  | '-' :: c :: rest => reading.shortOptions (c :: rest)
  | _ =>
      match reading.pending with
      | some none => .ok { reading with pending := some (some argument) }
      | _ => .error .misuse

/-- Whether the argument is the value of the option before it. -/
def awaitsValue (reading : Reading) : Bool :=
  reading.pending = some none

/-- What is asked for once all arguments are read; the path given to a subcommand counts more than
the one given before it. -/
def finish (reading : Reading) (outer : Option String) : Request :=
  let path := reading.configPath <|> outer
  match reading.topic with
  | .schema => if reading.printing then .script path else .provision .schema path
  | .certificate => .provision .certificate path
  | .command | .all | .help => .provision .all path

end Reading

/-- The subcommand with a name. -/
def subcommand? : String → Option HelpTopic
  | "all" => some .all
  | "schema" => some .schema
  | "cert" => some .certificate
  | "help" => some .help
  | _ => none

/-- What a call of the help subcommand asks for. -/
def helpRequest : List String → Except Halt Request
  | [] => .ok (.help .command)
  | [name] =>
      match subcommand? name with
      | some topic => .ok (.help topic)
      | none => .error .misuse
  | _ => .error .misuse

/-- Reads the arguments of a subcommand. -/
def readSubcommand (reading : Reading) : List String → Except Halt Reading
  | [] => reading.settle
  | "--" :: rest => do
      let reading ← reading.settle
      if rest.isEmpty then return reading else throw .misuse
  | argument :: rest => do
      let reading ← reading.option argument
      readSubcommand reading rest

/-- Reads the arguments of the command. -/
def readCommand (reading : Reading) : List String → Except Halt Request
  | [] => do
      let reading ← reading.settle
      return reading.finish none
  | "--" :: rest => do
      let reading ← reading.settle
      if rest.isEmpty then return reading.finish none else throw .misuse
  | argument :: rest =>
      match if reading.awaitsValue then none else subcommand? argument with
      | some .help => helpRequest rest
      | some topic => do
          let inner ← readSubcommand { topic } rest
          let reading ← reading.settle
          return inner.finish reading.configPath
      | none => do
          let reading ← reading.option argument
          readCommand reading rest

/-- What the arguments ask for; none if they make no sense. -/
def parse (arguments : List String) : Option Request :=
  match readCommand { topic := .command } arguments with
  | .ok request => some request
  | .error (.request request) => some request
  | .error .misuse => none

example : parse ["-c", "a", "schema", "-c", "b", "--print"] = some (.script (some "b")) := by
  decide +kernel

example : parse ["--", "schema"] = none := by decide +kernel

end Arguments

end MailProvision
