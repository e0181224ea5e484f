import MailProvision.Cluster.Memory
import MailProvision.Proofs.Action
import MailProvision.Schema.Provisioning

/-!
# Where a run halts

A run hands over the statements in order until one of them fails, and no further. Which one fails is
said here without the run: each call finds the session in the state that the calls before it left,
and fails if it is refused or is not answered within the limit, counted from the call itself.
-/

namespace MailProvision

/-- How a call fails. -/
inductive CallFailure where
  | refused (chain : List String)
  | overrun
deriving DecidableEq

/-- The error that a failed call is reported as. -/
def CallFailure.error (limit : Duration) (index : Nat) (text : String) :
    CallFailure → ProvisionError
  | .refused chain => .statement index text (": ".intercalate chain)
  | .overrun => .timeout index text limit

namespace Reaction

variable {State : Type}

/-- Whether and how a call fails: by its own delay and its own answer. -/
def failure? (limit : Duration) (reaction : Reaction State) : Option CallFailure :=
  match reaction.answer with
  | none => some .overrun
  | some answer =>
      if answer.delay.nanoseconds ≤ limit.nanoseconds then answer.refusal.map .refused
      else some .overrun

/-- The state that a call leaves; an answer that comes too late does not count. -/
def left (limit : Duration) (reaction : Reaction State) : State :=
  match reaction.answer with
  | none => reaction.received
  | some answer =>
      if answer.delay.nanoseconds ≤ limit.nanoseconds then answer.state else reaction.received

/-- A call takes too long and what was received stays, or its answer decides. -/
theorem judged (limit : Duration) (reaction : Reaction State) :
    (reaction.failure? limit = some .overrun ∧ reaction.left limit = reaction.received) ∨
      ∃ answer, reaction.answer = some answer ∧
        reaction.failure? limit = answer.refusal.map .refused ∧
          reaction.left limit = answer.state := by
  simp only [failure?, left]
  cases reaction.answer with
  | none => exact .inl ⟨rfl, rfl⟩
  | some answer =>
      by_cases inTime : answer.delay.nanoseconds ≤ limit.nanoseconds
      · simp only [inTime, if_true]
        exact .inr ⟨answer, rfl, rfl, rfl⟩
      · simp only [inTime, if_false]
        exact .inl ⟨trivial, trivial⟩

end Reaction

/-- The session of a run, as it answers under a limit. -/
structure Session (State : Type) where
  connector : Connector State
  limit : Duration

namespace Session

variable {State : Type} (session : Session State)

/-- The state after calls with these statements, the first of them with the given number. -/
def stateAfter : Nat → State → List Statement → State
  | _, state, [] => state
  | index, state, statement :: rest =>
      stateAfter (index + 1)
        ((session.connector.execute index statement.text state).left session.limit) rest

/-- Whether and how the call at a position fails, the first call having the given number. -/
def failureFrom? (index : Nat) (state : State) (statements : List Statement) (position : Nat) :
    Option CallFailure :=
  statements[position]?.bind fun statement =>
    (session.connector.execute (index + position) statement.text
      (session.stateAfter index state (statements.take position))).failure? session.limit

def failure? (state : State) (statements : List Statement) (position : Nat) :
    Option CallFailure :=
  session.failureFrom? 0 state statements position

theorem failureFrom?_zero (index : Nat) (state : State) (statement : Statement)
    (rest : List Statement) :
    session.failureFrom? index state (statement :: rest) 0 =
      (session.connector.execute index statement.text state).failure? session.limit :=
  rfl

theorem failureFrom?_succ (index : Nat) (state : State) (statement : Statement)
    (rest : List Statement) (position : Nat) :
    session.failureFrom? index state (statement :: rest) (position + 1) =
      session.failureFrom? (index + 1)
        ((session.connector.execute index statement.text state).left session.limit) rest
        position := by
  have number : index + (position + 1) = index + 1 + position := by omega
  simp only [failureFrom?, List.getElem?_cons_succ, List.take_succ_cons, stateAfter, number]

/-- Among the calls up to a bound none fails, or one is the first that does. -/
theorem first_failure_below (state : State) (statements : List Statement) (bound : Nat) :
    (∀ position < bound, session.failure? state statements position = none) ∨
      ∃ position failure,
        (∀ earlier < position, session.failure? state statements earlier = none) ∧
          session.failure? state statements position = some failure := by
  induction bound with
  | zero => exact .inl fun _ impossible => absurd impossible (Nat.not_lt_zero _)
  | succ bound ih =>
      rcases ih with before | found
      · cases next : session.failure? state statements bound with
        | some failure => exact .inr ⟨bound, failure, before, next⟩
        | none =>
            left
            intro position below
            rcases Nat.lt_succ_iff_lt_or_eq.mp below with earlier | rfl
            · exact before position earlier
            · exact next
      · exact .inr found

end Session

namespace Schema

variable {State : Type} {connector : Connector State} {limit : Duration}

theorem judge_eq (limit : Duration) (index : Nat) (text : String) (reaction : Reaction State) :
    judge limit index text reaction =
      (reaction.left limit,
        (reaction.failure? limit).map (CallFailure.error limit index text)) := by
  simp only [judge, Reaction.left, Reaction.failure?]
  cases reaction.answer with
  | none => rfl
  | some answer =>
      by_cases late : limit.nanoseconds < answer.delay.nanoseconds
      · simp [late, Nat.not_le.mpr late, CallFailure.error]
      · have inTime := Nat.not_lt.mp late
        cases refusal : answer.refusal <;>
          simp [late, inTime, refusal, CallFailure.error]

/-- The statements that a trace shows handed over, with their numbers. -/
def executions (trace : List Activity) : List (Nat × String) :=
  trace.filterMap fun
    | .execute index text => some (index, text)
    | _ => none

/-- Statements with their numbers, the first of them with the given number. -/
def numbered (index : Nat) (statements : List Statement) : List (Nat × String) :=
  (statements.zipIdx index).map fun (statement, index) => (index, statement.text)

/-- The number of statements that add data again when applied again. -/
def appendCount (statements : List Statement) : Nat :=
  statements.countP fun statement => !statement.isIdempotent

/-- What a run records about one statement: the report of it, a warning if it adds data again, and
the call. -/
def recordsOf (index : Nat) (statement : Statement) : List Activity :=
  .event (.executing index statement.label statement.text) ::
    ((if statement.isIdempotent then [] else [.event (.repeatsData index statement.label)]) ++
      [.execute index statement.text])

/-- What a run records about statements, the first of them with the given number. -/
def recordsFrom : Nat → List Statement → List Activity
  | _, [] => []
  | index, statement :: rest => recordsOf index statement ++ recordsFrom (index + 1) rest

theorem executions_append (first second : List Activity) :
    executions (first ++ second) = executions first ++ executions second :=
  List.filterMap_append

theorem executions_events (events : List Event) : executions (events.map .event) = [] := by
  simp [executions, List.filterMap_map]

theorem executions_enclosed (credentials : Credentials) (events : List Event)
    (trace : List Activity) :
    executions (.connect credentials :: (events.map .event ++ (trace ++ [.release]))) =
      executions trace := by
  rw [executions, List.filterMap_cons_none rfl, ← executions, executions_append,
    executions_events, List.nil_append, executions_append]
  exact List.append_nil _

theorem executions_recordsOf (index : Nat) (statement : Statement) :
    executions (recordsOf index statement) = [(index, statement.text)] := by
  by_cases idempotent : statement.isIdempotent = true
  · simp [recordsOf, executions, idempotent]
  · simp [recordsOf, executions, idempotent]

theorem executions_recordsFrom (index : Nat) (statements : List Statement) :
    executions (recordsFrom index statements) = numbered index statements := by
  induction statements generalizing index with
  | nil => rfl
  | cons statement rest ih =>
      rw [recordsFrom, executions_append, executions_recordsOf, ih]
      rfl

theorem announce_run (index : Nat) (statement : Statement) (state : State) :
    announce index statement state =
      { result := .ok ()
        state
        trace := .event (.executing index statement.label statement.text) ::
          if statement.isIdempotent then []
          else [.event (.repeatsData index statement.label)] } := by
  simp only [announce]
  by_cases idempotent : statement.isIdempotent = true
  · simp only [idempotent, if_true]
    rfl
  · simp only [idempotent]
    rfl

section Step

variable {index : Nat} (report : Report) {statement : Statement} (rest : List Statement)
  {state : State}

theorem applyFrom_of_failure {failure : CallFailure}
    (failed : (connector.execute index statement.text state).failure? limit = some failure) :
    applyFrom connector limit index report (statement :: rest) state =
      { result := .error (failure.error limit index statement.text)
        state := (connector.execute index statement.text state).left limit
        trace := recordsOf index statement } := by
  have executed : execute connector limit index statement.text state =
      { result := .error (failure.error limit index statement.text)
        state := (connector.execute index statement.text state).left limit
        trace := [.execute index statement.text] } := by
    simp only [execute, judge_eq, failed, Option.map_some]
  rw [applyFrom, Action.bind_of_ok (announce_run index statement state),
    Action.bind_of_error executed]
  rfl

theorem applyFrom_of_success
    (succeeded : (connector.execute index statement.text state).failure? limit = none) :
    applyFrom connector limit index report (statement :: rest) state =
      { result := (applyFrom connector limit (index + 1) (report.count statement) rest
          ((connector.execute index statement.text state).left limit)).result
        state := (applyFrom connector limit (index + 1) (report.count statement) rest
          ((connector.execute index statement.text state).left limit)).state
        trace := recordsOf index statement ++
          (applyFrom connector limit (index + 1) (report.count statement) rest
            ((connector.execute index statement.text state).left limit)).trace } := by
  have executed : execute connector limit index statement.text state =
      { result := .ok ()
        state := (connector.execute index statement.text state).left limit
        trace := [.execute index statement.text] } := by
    simp only [execute, judge_eq, succeeded, Option.map_none]
  conv => lhs; unfold applyFrom
  rw [Action.bind_of_ok (announce_run index statement state), Action.bind_of_ok executed]
  simp only [recordsOf, List.cons_append, List.append_assoc]

end Step

section Run

variable {session : Session State} {statements : List Statement}

/-- Up to the first call that fails. -/
theorem applyFrom_halts {index position : Nat} (report : Report) {state : State}
    {failure : CallFailure}
    (before : ∀ earlier < position, session.failureFrom? index state statements earlier = none)
    (failed : session.failureFrom? index state statements position = some failure) :
    ∃ statement, statements[position]? = some statement ∧
      applyFrom session.connector session.limit index report statements state =
        { result := .error (failure.error session.limit (index + position) statement.text)
          state := session.stateAfter index state (statements.take (position + 1))
          trace := recordsFrom index (statements.take (position + 1)) } := by
  induction statements generalizing index position report state with
  | nil => cases failed
  | cons statement rest ih =>
      cases position with
      | zero =>
          rw [Session.failureFrom?_zero] at failed
          refine ⟨statement, rfl, ?_⟩
          rw [applyFrom_of_failure report rest failed]
          simp [recordsFrom, Session.stateAfter]
      | succ position =>
          have succeeded := before 0 (Nat.succ_pos position)
          rw [Session.failureFrom?_zero] at succeeded
          rw [Session.failureFrom?_succ] at failed
          have later : ∀ earlier < position, session.failureFrom? (index + 1)
              ((session.connector.execute index statement.text state).left session.limit) rest
              earlier = none := by
            intro earlier bound
            rw [← Session.failureFrom?_succ]
            exact before (earlier + 1) (Nat.succ_lt_succ bound)
          rcases ih (report.count statement) later failed with ⟨failing, found, run⟩
          have number : index + 1 + position = index + (position + 1) := by omega
          refine ⟨failing, found, ?_⟩
          rw [applyFrom_of_success report rest succeeded, run, number]
          rfl

/-- To the end, if no call fails. -/
theorem applyFrom_finishes {index : Nat} (report : Report) {state : State}
    (succeeded : ∀ position, session.failureFrom? index state statements position = none) :
    applyFrom session.connector session.limit index report statements state =
      { result := .ok
          { executed := report.executed + statements.length
            appended := report.appended + appendCount statements }
        state := session.stateAfter index state statements
        trace := recordsFrom index statements ++
          [.event (.schemaCompleted (report.executed + statements.length)
            (report.appended + appendCount statements))] } := by
  induction statements generalizing index report state with
  | nil => rfl
  | cons statement rest ih =>
      have first := succeeded 0
      rw [Session.failureFrom?_zero] at first
      have later (position : Nat) : session.failureFrom? (index + 1)
          ((session.connector.execute index statement.text state).left session.limit) rest
          position = none := by
        rw [← Session.failureFrom?_succ]
        exact succeeded (position + 1)
      have counted : (report.count statement).executed + rest.length =
            report.executed + (statement :: rest).length ∧
          (report.count statement).appended + appendCount rest =
            report.appended + appendCount (statement :: rest) := by
        unfold Report.count appendCount
        by_cases idempotent : statement.isIdempotent = true
        · simp [idempotent]
          omega
        · simp [idempotent]
          omega
      rw [applyFrom_of_success report rest first, ih (report.count statement) later, counted.1,
        counted.2, recordsFrom, List.append_assoc]
      rfl

end Run

theorem provision_of_noHosts {credentials : Credentials} (hosts : credentials.hosts = [])
    (statements : List Statement) (state : State) :
    provision connector credentials limit statements state =
      { result := .error (.connection credentials.hostList Connector.noHosts)
        state
        trace := [] } := by
  simp only [provision, hosts, List.isEmpty_nil, if_true]
  rfl

theorem provision_of_refused {credentials : Credentials} {state : State} {reason : String}
    (hosts : credentials.hosts ≠ [])
    (refused : (connector.connect credentials state).refusal = some reason)
    (statements : List Statement) :
    provision connector credentials limit statements state =
      { result := .error (.connection credentials.hostList reason)
        state := (connector.connect credentials state).state
        trace := .connect credentials ::
          (connector.connect credentials state).events.map .event } := by
  have failed : openSession connector credentials state =
      { result := .error (.connection credentials.hostList reason)
        state := (connector.connect credentials state).state
        trace := .connect credentials ::
          (connector.connect credentials state).events.map .event } := by
    simp only [openSession, refused]
  have someHost : credentials.hosts.isEmpty = false := by
    simpa [List.isEmpty_eq_false_iff] using hosts
  simp only [provision, someHost, Bool.false_eq_true, if_false]
  rw [Action.bind_of_error failed]

theorem provision_of_connected {credentials : Credentials} {state : State}
    (hosts : credentials.hosts ≠ [])
    (connected : (connector.connect credentials state).refusal = none)
    {statements : List Statement} {result : Except ProvisionError Report} {after : State}
    {trace : List Activity}
    (applied : applyFrom connector limit 0 { executed := 0, appended := 0 } statements
      (connector.connect credentials state).state = { result, state := after, trace }) :
    provision connector credentials limit statements state =
      { result
        state := connector.release after
        trace := .connect credentials ::
          ((connector.connect credentials state).events.map .event ++ (trace ++ [.release])) } := by
  have opened : openSession connector credentials state =
      { result := .ok ()
        state := (connector.connect credentials state).state
        trace := .connect credentials ::
          (connector.connect credentials state).events.map .event } := by
    simp only [openSession, connected]
  have someHost : credentials.hosts.isEmpty = false := by
    simpa [List.isEmpty_eq_false_iff] using hosts
  simp only [provision, someHost, Bool.false_eq_true, if_false]
  rw [Action.bind_of_ok opened]
  simp only [Action.ensuring, applied, List.cons_append]

theorem provision_of_failure {credentials : Credentials} {state : State}
    (hosts : credentials.hosts ≠ [])
    (connected : (connector.connect credentials state).refusal = none)
    {statements : List Statement} {position : Nat} {failure : CallFailure}
    (before : ∀ earlier < position, Session.failure? { connector, limit }
      (connector.connect credentials state).state statements earlier = none)
    (failed : Session.failure? { connector, limit }
      (connector.connect credentials state).state statements position = some failure) :
    ∃ statement, statements[position]? = some statement ∧
      provision connector credentials limit statements state =
        { result := .error (failure.error limit position statement.text)
          state := connector.release (Session.stateAfter { connector, limit } 0
            (connector.connect credentials state).state (statements.take (position + 1)))
          trace := .connect credentials ::
            ((connector.connect credentials state).events.map .event ++
              (recordsFrom 0 (statements.take (position + 1)) ++ [.release])) } := by
  rcases applyFrom_halts { executed := 0, appended := 0 } before failed with
    ⟨statement, found, run⟩
  refine ⟨statement, found, ?_⟩
  rw [provision_of_connected hosts connected run, Nat.zero_add]

theorem provision_of_success {credentials : Credentials} {state : State}
    (hosts : credentials.hosts ≠ [])
    (connected : (connector.connect credentials state).refusal = none)
    {statements : List Statement}
    (succeeded : ∀ position, Session.failure? { connector, limit }
      (connector.connect credentials state).state statements position = none) :
    provision connector credentials limit statements state =
      { result := .ok { executed := statements.length, appended := appendCount statements }
        state := connector.release (Session.stateAfter { connector, limit } 0
          (connector.connect credentials state).state statements)
        trace := .connect credentials ::
          ((connector.connect credentials state).events.map .event ++
            (recordsFrom 0 statements ++
              [.event (.schemaCompleted statements.length (appendCount statements))] ++
              [.release])) } := by
  have run := applyFrom_finishes { executed := 0, appended := 0 } succeeded
  simp only [Nat.zero_add] at run
  exact provision_of_connected hosts connected run

/-- What a run comes to if the call at a position is the first to fail. -/
structure HaltsAt (session : Session State) (start : State) (statements : List Statement)
    (position : Nat) (failure : CallFailure)
    (outcome : Outcome State ProvisionError Report) : Prop where
  received : executions outcome.trace = numbered 0 (statements.take (position + 1))
  state : outcome.state =
    session.connector.release (session.stateAfter 0 start (statements.take (position + 1)))
  result : ∃ statement, statements[position]? = some statement ∧
    outcome.result = .error (failure.error session.limit position statement.text)

/-- What a run comes to if no call fails. -/
structure Finishes (session : Session State) (start : State) (statements : List Statement)
    (outcome : Outcome State ProvisionError Report) : Prop where
  received : executions outcome.trace = numbered 0 statements
  state : outcome.state =
    session.connector.release (session.stateAfter 0 start statements)
  result : outcome.result =
    .ok { executed := statements.length, appended := appendCount statements }

theorem haltsAt_of_failure {credentials : Credentials} {state : State}
    (hosts : credentials.hosts ≠ [])
    (connected : (connector.connect credentials state).refusal = none)
    {statements : List Statement} {position : Nat} {failure : CallFailure}
    (before : ∀ earlier < position, Session.failure? { connector, limit }
      (connector.connect credentials state).state statements earlier = none)
    (failed : Session.failure? { connector, limit }
      (connector.connect credentials state).state statements position = some failure) :
    HaltsAt { connector, limit } (connector.connect credentials state).state statements position
      failure (provision connector credentials limit statements state) := by
  rcases provision_of_failure hosts connected before failed with ⟨statement, found, run⟩
  rw [run]
  refine { received := ?_, state := rfl, result := ⟨statement, found, rfl⟩ }
  rw [← executions_recordsFrom, executions_enclosed]

theorem finishes_of_success {credentials : Credentials} {state : State}
    (hosts : credentials.hosts ≠ [])
    (connected : (connector.connect credentials state).refusal = none)
    {statements : List Statement}
    (succeeded : ∀ position, Session.failure? { connector, limit }
      (connector.connect credentials state).state statements position = none) :
    Finishes { connector, limit } (connector.connect credentials state).state statements
      (provision connector credentials limit statements state) := by
  rw [provision_of_success hosts connected succeeded]
  refine { received := ?_, state := rfl, result := rfl }
  rw [← executions_recordsFrom, executions_enclosed, executions_append]
  exact List.append_nil _

/-- A run hands over the statements up to the first that fails, each judged by its own delay, and
reports that failure; it succeeds if and only if none fails. -/
theorem provision_halts_at_first_failure (connector : Connector State) (limit : Duration)
    {credentials : Credentials} {state : State} (hosts : credentials.hosts ≠ [])
    (connected : (connector.connect credentials state).refusal = none)
    (statements : List Statement) :
    let session : Session State := { connector, limit }
    let start := (connector.connect credentials state).state
    let outcome := provision connector credentials limit statements state
    (∀ position failure,
      (∀ earlier < position, session.failure? start statements earlier = none) →
        session.failure? start statements position = some failure →
          HaltsAt session start statements position failure outcome) ∧
    ((∀ position, session.failure? start statements position = none) →
      Finishes session start statements outcome) ∧
    (outcome.result = .ok { executed := statements.length, appended := appendCount statements } ↔
      ∀ position, session.failure? start statements position = none) := by
  intro session start outcome
  refine ⟨fun _ _ before failed => haltsAt_of_failure hosts connected before failed,
    fun succeeded => finishes_of_success hosts connected succeeded, ?_, ?_⟩
  · intro succeeded position
    rcases session.first_failure_below start statements (position + 1) with
      none | ⟨first, failure, before, failed⟩
    · exact none position (Nat.lt_succ_self position)
    · have halts : HaltsAt session start statements first failure outcome :=
        haltsAt_of_failure hosts connected before failed
      rcases halts.result with ⟨statement, _, refused⟩
      rw [succeeded] at refused
      cases refused
  · intro succeeded
    exact (finishes_of_success hosts connected succeeded).result

def sample : List Statement :=
  [.idempotent "keyspace" "CREATE KEYSPACE IF NOT EXISTS mail",
    .idempotent "table" "CREATE TABLE IF NOT EXISTS mail.domains (name text)",
    .append "row" "INSERT INTO mail.domains (name) VALUES ('a')"]

theorem provision_halts_at_first_failure_hanging :
    let connector := MemoryCluster.connector none
      [{ call := 0, delay := .ofSeconds 30 }, { call := 1, hangs := true }]
    let credentials := Credentials.ofHosts ["a"] Credentials.defaultPort
    credentials.hosts ≠ [] ∧ (connector.connect credentials {}).refusal = none ∧
      HaltsAt { connector, limit := .ofSeconds 30 } (connector.connect credentials {}).state sample
        1 .overrun (provision connector credentials (.ofSeconds 30) sample {}) := by
  intro connector credentials
  have hosts : credentials.hosts ≠ [] := by decide
  have connected : (connector.connect credentials {}).refusal = none := rfl
  have halts := (provision_halts_at_first_failure connector (.ofSeconds 30) hosts connected
    sample).1 1 .overrun
  refine ⟨hosts, connected, halts ?_ rfl⟩
  intro earlier bound
  obtain rfl : earlier = 0 := by omega
  rfl

end Schema

end MailProvision
