import MailProvision.CommandLine.Help
import MailProvision.Config.Load
import MailProvision.Log.Filter
import MailProvision.Log.Line
import MailProvision.Schema.Script

/-!
# Running the command

What a request does to the world and what it says. Printing the script needs no configuration and
touches nothing. Every other request loads the configuration, does the steps, and ends in a closing
report.
-/

namespace MailProvision

/-- How a run of the command ends. -/
structure CommandReport where
  exitCode : Nat
  /-- What is printed, log lines apart. -/
  printed : String := ""
  /-- Complaints that do not end the run. -/
  complaints : List String := []
  /-- The error that ended the run. -/
  failure : Option Error := none
  format : LogFormat := .plain
  /-- The events that are shown. -/
  events : List Event := []
deriving DecidableEq, Repr

namespace CommandReport

/-- A run that did nothing but print. -/
def ofText (text : String) : CommandReport :=
  { exitCode := 0, printed := text }

/-- A run that an error ended before it began. -/
def ofError (error : Error) : CommandReport :=
  { exitCode := 1, failure := some error }

/-- The error that ended the run, with its causes, as it is told to a person. -/
def failureText (error : Error) : String :=
  let causes :=
    match error.causes with
    | [] => ""
    | causes => "\n\nCaused by:" ++ String.join (causes.map fun cause => "\n    " ++ cause)
  "Error: " ++ error.message ++ causes ++ "\n"

/-- Everything that is said about what went wrong. -/
def errorText (report : CommandReport) : String :=
  String.join (report.complaints.map (· ++ "\n")) ++
    (report.failure.map failureText).getD ""

/-- Everything that is printed, with the moment that log lines show. -/
def outputText (report : CommandReport) (nanoseconds : Int) : String :=
  report.printed ++ String.join (report.events.map fun event =>
    LogLine.render report.format nanoseconds event ++ "\n")

end CommandReport

namespace Command

variable {Cluster : Type}

/-- The closing report about one step. -/
def outcomeEvent : StepOutcome → Event
  | .schema report => .schemaReady report.executed report.appended
  | .certificate minted =>
      .certificateReady minted.certificatePath minted.keyPath
        (CalendarTime.describe minted.notAfter)

/-- The closing reports. -/
def conclude : List StepOutcome → Action (World Cluster) (Halt Error) Unit
  | [] => Action.report .complete
  | outcome :: rest => do
      Action.report (outcomeEvent outcome)
      conclude rest

/-- Does the steps of a selection, with reports before and after them. -/
def provision (config : Config) (connector : Connector Cluster) (selection : Selection) :
    Action (World Cluster) (Halt Error) Unit := do
  Action.report (.starting (Step.describeAll selection.steps))
  let outcomes ← Steps.run config connector selection.steps
  conclude outcomes

/-- The filter of a run: the variable for it, if it can be read, else the configured level. -/
def logFilter (environment : List (String × String)) (logging : LoggingSettings) :
    LogFilter × List String :=
  match (environment.lookup "RUST_LOG").bind LogFilter.parse? with
  | some filter => (filter, [])
  | none => LogFilter.parseLossy logging.level

/-- The events of a trace. -/
def eventsOf (trace : List Activity) : List Event :=
  trace.filterMap fun
    | .event event => some event
    | _ => none

/-- The exit code for the result of a run; the runtime answers a panic with its own. -/
def exitCodeOf : Except (Halt Error) Unit → Nat
  | .ok () => 0
  | .error (.failure _) => 1
  | .error .panic => 101

/-- The report about a run. What a panic prints is left out. -/
def reportOn (environment : List (String × String)) (logging : LoggingSettings)
    (outcome : Outcome (World Cluster) (Halt Error) Unit) : CommandReport :=
  let (filter, complaints) := logFilter environment logging
  let failure :=
    match outcome.result with
    | .ok () => none
    | .error halt => halt.failure?
  { exitCode := exitCodeOf outcome.result
    complaints
    failure
    format := .ofName logging.format
    events := (eventsOf outcome.trace).filter filter.shows }

/-- Prints the script of the schema. -/
def printScript (library : Settings.Library) (tree : FileTree) (workingDirectory : Location)
    (environment : List (String × String)) (configPath : Option String) : CommandReport :=
  let located := Config.locate tree workingDirectory configPath
  match Config.schemaOptions library tree workingDirectory environment located with
  | .ok options => .ofText (Script.render (Schema.statements options))
  | .error fault => .ofError (.config fault)

/-- Does what a request asks for. -/
def run (library : Settings.Library) (connector : Connector Cluster)
    (environment : List (String × String)) (request : Request) (world : World Cluster) :
    CommandReport × World Cluster :=
  let disk := world.workshop.disk
  match request with
  | .help topic => (.ofText (Help.text topic), world)
  | .version => (.ofText Help.versionText, world)
  | .script configPath =>
      (printScript library disk.tree disk.workingDirectory environment configPath, world)
  | .provision selection configPath =>
      match Config.load library disk.tree disk.workingDirectory environment configPath with
      | .error fault => (.ofError (.config fault), world)
      | .ok config =>
          let outcome := provision config connector selection world
          (reportOn environment config.logging outcome, outcome.state)

end Command

end MailProvision
