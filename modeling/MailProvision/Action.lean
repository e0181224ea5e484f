import MailProvision.Event

/-!
# Actions

An action changes a state, may fail, and leaves a trace of what it reported and exchanged with a
cluster. Actions are chained by `bind`: a failure ends the chain, and the traces of its links follow
one another.
-/

namespace MailProvision

/-- One entry of a trace: a report, or an exchange with a cluster. -/
inductive Activity where
  | event (event : Event)
  /-- A connection attempt. -/
  | connect (credentials : Credentials)
  /-- A statement handed to a session, with its number in that session. -/
  | execute (call : Nat) (text : String)
  /-- The end of a session. -/
  | release
deriving DecidableEq, Repr

/-- How a call breaks off. -/
inductive Halt (Failure : Type) where
  /-- It hands a failure to its caller. -/
  | failure (told : Failure)
  /-- It panics. No caller is told, and the whole run is over. -/
  | panic
deriving DecidableEq, Repr

namespace Halt

variable {Failure Other : Type}

/-- The failure that the caller is told, if any. -/
def failure? : Halt Failure → Option Failure
  | failure told => some told
  | panic => none

/-- The same ending with another type of failure. -/
def map (convert : Failure → Other) : Halt Failure → Halt Other
  | failure told => failure (convert told)
  | panic => panic

end Halt

/-- What an action comes to. -/
structure Outcome (State Failure Value : Type) where
  result : Except Failure Value
  state : State
  trace : List Activity

/-- A computation that changes a state, may fail, and leaves a trace. -/
def Action (State Failure Value : Type) : Type :=
  State → Outcome State Failure Value

namespace Action

variable {State Failure Value Result : Type}

/-- Does nothing and succeeds. -/
def done (value : Value) : Action State Failure Value := fun state =>
  { result := .ok value, state, trace := [] }

/-- Does nothing and fails. -/
def fail (failure : Failure) : Action State Failure Value := fun state =>
  { result := .error failure, state, trace := [] }

/-- One action and then, if it succeeds, the next. -/
def andThen (first : Action State Failure Value)
    (next : Value → Action State Failure Result) : Action State Failure Result := fun state =>
  let before := first state
  match before.result with
  | .error failure => { result := .error failure, state := before.state, trace := before.trace }
  | .ok value =>
      let after := next value before.state
      { after with trace := before.trace ++ after.trace }

instance : Monad (Action State Failure) where
  pure := done
  bind := andThen

/-- Leaves one entry in the trace. -/
def note (activity : Activity) : Action State Failure Unit := fun state =>
  { result := .ok (), state, trace := [activity] }

/-- Reports an event. -/
def report (event : Event) : Action State Failure Unit :=
  note (.event event)

/-- Succeeds or fails as a result says. -/
def ofExcept (result : Except Failure Value) : Action State Failure Value := fun state =>
  { result, state, trace := [] }

/-- Reads something off the state. -/
def gets (read : State → Value) : Action State Failure Value := fun state =>
  { result := .ok (read state), state, trace := [] }

/-- Changes the state. -/
def modify (change : State → State) : Action State Failure Unit := fun state =>
  { result := .ok (), state := change state, trace := [] }

/-- The action with another type of failure. -/
def mapFailure {Other : Type} (convert : Failure → Other) (action : Action State Failure Value) :
    Action State Other Value := fun state =>
  let outcome := action state
  { result := outcome.result.mapError convert, state := outcome.state, trace := outcome.trace }

/-- The action, followed by a change of the state if it fails. -/
def onFailure (repair : State → State) (action : Action State Failure Value) :
    Action State Failure Value := fun state =>
  let outcome := action state
  match outcome.result with
  | .ok _ => outcome
  | .error _ => { outcome with state := repair outcome.state }

/-- The action, followed by a report of its failure if it fails and there is something to report. -/
def onFailureReport (event? : Failure → Option Event) (action : Action State Failure Value) :
    Action State Failure Value := fun state =>
  let outcome := action state
  match outcome.result with
  | .ok _ => outcome
  | .error failure =>
      { outcome with trace := outcome.trace ++ ((event? failure).map Activity.event).toList }

/-- The action, followed by a change of the state and an entry in the trace, however it ends. -/
def ensuring (finish : State → State) (activity : Activity) (action : Action State Failure Value) :
    Action State Failure Value := fun state =>
  let outcome := action state
  { outcome with state := finish outcome.state, trace := outcome.trace ++ [activity] }

/-- The action on a part of a greater state. -/
def within {Whole : Type} (part : Whole → State) (replace : State → Whole → Whole)
    (action : Action State Failure Value) : Action Whole Failure Value := fun whole =>
  let outcome := action (part whole)
  { result := outcome.result, state := replace outcome.state whole, trace := outcome.trace }

end Action

end MailProvision
