import MailProvision.Cluster.Connector

/-!
# Provisioning a schema

Statements are applied over a single session, in order, each under a time limit of its own. The
first statement that is refused or takes too long ends the run: what was applied stays, and later
statements are not tried. The session is given back however the run ends.
-/

namespace MailProvision

namespace Schema

/-- The time that a statement may take unless another limit is set. -/
def defaultStatementTimeout : Duration := .ofSeconds 30

/-- What a successful run did. -/
structure Report where
  /-- The number of statements applied. -/
  executed : Nat
  /-- How many of them add data again when applied again. -/
  appended : Nat
deriving DecidableEq, Repr

namespace Report

/-- The report once a further statement has been applied. -/
def count (report : Report) (statement : Statement) : Report :=
  { executed := report.executed + 1
    appended := if statement.isIdempotent then report.appended else report.appended + 1 }

end Report

variable {State : Type}

/-- What a reaction means under a time limit: the state that it leaves, and the error that it is. An
answer counts if it comes within the limit, at its very end included. -/
def judge (limit : Duration) (index : Nat) (text : String) (reaction : Reaction State) :
    State × Option ProvisionError :=
  match reaction.answer with
  | none => (reaction.received, some (.timeout index text limit))
  | some answer =>
      if limit.nanoseconds < answer.delay.nanoseconds then
        (reaction.received, some (.timeout index text limit))
      else
        (answer.state,
          answer.refusal.map fun chain => .statement index text (": ".intercalate chain))

/-- Hands one statement over and waits for the answer. -/
def execute (connector : Connector State) (limit : Duration) (index : Nat) (text : String) :
    Action State ProvisionError Unit := fun state =>
  let (after, failure) := judge limit index text (connector.execute index text state)
  { result :=
      match failure with
      | none => .ok ()
      | some error => .error error
    state := after
    trace := [.execute index text] }

/-- The reports about a statement before it is handed over. -/
def announce (index : Nat) (statement : Statement) : Action State ProvisionError Unit := do
  Action.report (.executing index statement.label statement.text)
  if statement.isIdempotent then Action.done ()
  else Action.report (.repeatsData index statement.label)

/-- Applies statements, counted from `index`, and adds them to a report. -/
def applyFrom (connector : Connector State) (limit : Duration) :
    Nat → Report → List Statement → Action State ProvisionError Report
  | _, report, [] => do
      Action.report (.schemaCompleted report.executed report.appended)
      Action.done report
  | index, report, statement :: rest => do
      announce index statement
      execute connector limit index statement.text
      applyFrom connector limit (index + 1) (report.count statement) rest

/-- Opens a session. -/
def openSession (connector : Connector State) (credentials : Credentials) :
    Action State ProvisionError Unit := fun state =>
  let attempt := connector.connect credentials state
  { result :=
      match attempt.refusal with
      | none => .ok ()
      | some reason => .error (.connection credentials.hostList reason)
    state := attempt.state
    trace := .connect credentials :: attempt.events.map .event }

/-- Opens a session, applies all statements and gives the session back. Without a host no session is
tried. -/
def provision (connector : Connector State) (credentials : Credentials) (limit : Duration)
    (statements : List Statement) : Action State ProvisionError Report :=
  if credentials.hosts.isEmpty then
    Action.fail (.connection credentials.hostList Connector.noHosts)
  else do
    openSession connector credentials
    Action.ensuring connector.release .release
      (applyFrom connector limit 0 { executed := 0, appended := 0 } statements)

end Schema

end MailProvision
