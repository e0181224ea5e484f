import MailProvision.Action

/-!
# Connectors

How a run talks to a cluster: it opens a session, hands over statements one by one, and gives the
session back. A connector is a state machine; its state is all that the cluster and the session
remember. A call may never be answered, and an answer takes its time.
-/

namespace MailProvision

/-- An answer to a statement: after a while, and with a chain of reasons if it is a refusal, the
outermost first. -/
structure Answer (State : Type) where
  delay : Duration
  refusal : Option (List String)
  /-- The state once the answer is given. -/
  state : State

/-- What becomes of a statement. -/
structure Reaction (State : Type) where
  /-- The state once the statement is received, kept if nobody waits for the answer. -/
  received : State
  /-- The answer, if there ever is one. -/
  answer : Option (Answer State)

/-- What becomes of an attempt to open a session. -/
structure Attempt (State : Type) where
  events : List Event
  state : State
  /-- Why there is no session, if there is none. -/
  refusal : Option String

/-- A way to open sessions and use them. -/
structure Connector (State : Type) where
  connect : Credentials → State → Attempt State
  /-- Hands over the statement with the given number in its session. -/
  execute : Nat → String → State → Reaction State
  /-- Gives the session back. -/
  release : State → State

namespace Connector

/-- Why a connector that needs a host refuses credentials without one. -/
def noHosts : String := "no hosts configured"

/-- The connector of a cluster that nobody answers for: every attempt ends with the given reason. -/
def unreachable (reason : String) (State : Type) : Connector State where
  connect credentials state :=
    if credentials.hosts.isEmpty then { events := [], state, refusal := some noHosts }
    else
      let authentication :=
        match credentials.authentication with
        | some (username, _) => Event.usingAuthentication username
        | none => Event.withoutAuthentication
      { events := [authentication, .connecting credentials.hostList credentials.port.toNat]
        state
        refusal := some reason }
  execute _ _ state := { received := state, answer := none }
  release state := state

end Connector

end MailProvision
