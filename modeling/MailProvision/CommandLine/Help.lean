import MailProvision.CommandLine.Arguments

/-!
# Help texts

What the command says about itself and its subcommands.
-/

namespace MailProvision

namespace Help

/-- The name of the command. -/
def commandName : String := "fsmtp-provision"

/-- The version of the command. -/
def version : String := "0.1.0"

/-- What is said about each topic. -/
def about : HelpTopic → String
  | .command => "Provision the FSMTP mail server"
  | .all => "Provision the schema, then mint the certificate"
  | .schema => "Create the keyspace and tables"
  | .certificate => "Mint the self-signed certificate and key"
  | .help => "Print this message or the help of the given subcommand(s)"

/-- The name of a subcommand. -/
def subcommandName : HelpTopic → String
  | .command => commandName
  | .all => "all"
  | .schema => "schema"
  | .certificate => "cert"
  | .help => "help"

/-- Lines of two columns, indented, the first column as wide as its widest entry. -/
def columns (rows : List (String × String)) : String :=
  let width := rows.foldl (fun width row => max width row.1.length) 0
  String.join <| rows.map fun row =>
    "  " ++ row.1.pushn ' ' (width - row.1.length) ++ "  " ++ row.2 ++ "\n"

/-- The option for the path of the configuration. -/
def configOption : String × String :=
  ("-c, --config <PATH>", "Configuration file (json, toml or yaml)")

/-- The option for the script. -/
def printOption : String × String :=
  ("    --print", "Print the CQL script instead of executing it; works without a config file")

/-- The option for help. -/
def helpOption : String × String :=
  ("-h, --help", "Print help")

/-- The option for the version. -/
def versionOption : String × String :=
  ("-V, --version", "Print version")

/-- How the command is called. -/
def usage : HelpTopic → String
  | .command => commandName ++ " [OPTIONS] [COMMAND]"
  | .help => commandName ++ " help [COMMAND]..."
  | topic => commandName ++ " " ++ subcommandName topic ++ " [OPTIONS]"

/-- The sections of a help text with their rows. -/
def sections : HelpTopic → List (String × List (String × String))
  | .command =>
      [("Commands",
          [HelpTopic.all, .schema, .certificate, .help].map fun topic =>
            (subcommandName topic, about topic)),
        ("Options", [configOption, helpOption, versionOption])]
  | .schema => [("Options", [configOption, printOption, helpOption])]
  | .all | .certificate => [("Options", [configOption, helpOption])]
  | .help => [("Arguments", [("[COMMAND]...", "Print help for the subcommand(s)")])]

/-- The help text of a topic. -/
def text (topic : HelpTopic) : String :=
  about topic ++ "\n\nUsage: " ++ usage topic ++ "\n" ++
    String.join ((sections topic).map fun item => "\n" ++ item.1 ++ ":\n" ++ columns item.2)

/-- The answer to a call for the version. -/
def versionText : String :=
  commandName ++ " " ++ version ++ "\n"

end Help

end MailProvision
