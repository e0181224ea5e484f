import MailProvision.Cluster.Memory
import MailProvision.Proofs.Action
import MailProvision.Proofs.Cluster.Credentials
import MailProvision.Steps

/-!
# The password stays secret

Two configurations with different passwords run alike on every connector that does not look at the
password: the results with their errors, the worlds that are left, and the traces are equal, but for
the passwords handed over when a session is opened. Runs are compared link by link; apart from the
opening of a session, both runs do the very same.
-/

namespace MailProvision

/-- The activity without its password. -/
def Activity.hidden : Activity → Activity
  | .connect credentials => .connect credentials.hidden
  | activity => activity

/-- The outcome without the passwords in its trace. -/
def Outcome.hidden {State Failure Value : Type} (outcome : Outcome State Failure Value) :
    Outcome State Failure Value :=
  { outcome with trace := outcome.trace.map Activity.hidden }

/-- What becomes of an attempt to open a session does not depend on the password. -/
def Connector.Discreet {State : Type} (connector : Connector State) : Prop :=
  ∀ credentials other : Credentials, credentials.hidden = other.hidden →
    connector.connect credentials = connector.connect other

namespace Action

variable {State Failure Value Result : Type}

/-- The two actions come to the same, but for the passwords in the traces. -/
def Agrees (first second : Action State Failure Value) : Prop :=
  ∀ state, (first state).hidden = (second state).hidden

namespace Agrees

theorem refl (action : Action State Failure Value) : action.Agrees action :=
  fun _ => rfl

theorem of_eq {first second : Action State Failure Value} {state : State}
    {result result' : Except Failure Value} {after after' : State} {trace trace' : List Activity}
    (ran : first state = { result, state := after, trace })
    (ran' : second state = { result := result', state := after', trace := trace' })
    (results : result = result') (states : after = after')
    (traces : trace.map Activity.hidden = trace'.map Activity.hidden) :
    (first state).hidden = (second state).hidden := by
  rw [ran, ran', Outcome.hidden, Outcome.hidden, results, states, traces]

/-- What two outcomes have in common when they agree. -/
theorem parts {first second : Outcome State Failure Value}
    (same : first.hidden = second.hidden) :
    first.result = second.result ∧ first.state = second.state ∧
      first.trace.map Activity.hidden = second.trace.map Activity.hidden := by
  simp only [Outcome.hidden, Outcome.mk.injEq] at same
  exact same

theorem bind {first second : Action State Failure Value}
    {next other : Value → Action State Failure Result} (before : first.Agrees second)
    (after : ∀ value, (next value).Agrees (other value)) :
    (first >>= next).Agrees (second >>= other) := by
  intro state
  rcases parts (before state) with ⟨results, states, traces⟩
  cases ran : first state with
  | mk result reached trace =>
      cases ran' : second state with
      | mk result' reached' trace' =>
          simp only [ran, ran'] at results states traces
          subst result' reached'
          cases result with
          | error failure => exact of_eq (bind_of_error ran) (bind_of_error ran') rfl rfl traces
          | ok value =>
              rcases parts (after value reached) with ⟨results, states, later⟩
              apply of_eq (bind_of_ok ran) (bind_of_ok ran') results states
              rw [List.map_append, List.map_append, traces, later]

theorem mapFailure {Other : Type} {first second : Action State Failure Value}
    (agrees : first.Agrees second) (convert : Failure → Other) :
    (first.mapFailure convert).Agrees (second.mapFailure convert) := by
  intro state
  rcases parts (agrees state) with ⟨results, states, traces⟩
  exact of_eq rfl rfl (congrArg (Except.mapError convert) results) states traces

theorem within {Whole : Type} {first second : Action State Failure Value}
    (agrees : first.Agrees second) (part : Whole → State) (replace : State → Whole → Whole) :
    (first.within part replace).Agrees (second.within part replace) := by
  intro whole
  rcases parts (agrees (part whole)) with ⟨results, states, traces⟩
  exact of_eq rfl rfl results (congrArg (replace · whole) states) traces

theorem onFailureReport {first second : Action State Failure Value} (agrees : first.Agrees second)
    (event? : Failure → Option Event) :
    (first.onFailureReport event?).Agrees (second.onFailureReport event?) := by
  intro state
  rcases parts (agrees state) with ⟨results, states, traces⟩
  cases ran : first state with
  | mk result reached trace =>
      cases ran' : second state with
      | mk result' reached' trace' =>
          simp only [ran, ran'] at results states traces
          subst result' reached'
          cases result with
          | error failure =>
              apply of_eq (onFailureReport_of_error event? ran)
                (onFailureReport_of_error event? ran') rfl rfl
              rw [List.map_append, List.map_append, traces]
          | ok value =>
              exact of_eq (onFailureReport_of_ok event? ran) (onFailureReport_of_ok event? ran')
                rfl rfl traces

end Agrees

end Action

/-! ## The opening of a session -/

namespace Schema

variable {State : Type} {connector : Connector State} {credentials other : Credentials}

theorem agrees_openSession (discreet : connector.Discreet)
    (same : credentials.hidden = other.hidden) :
    (openSession connector credentials).Agrees (openSession connector other) := by
  intro state
  have hosts : credentials.hostList = other.hostList :=
    congrArg (",".intercalate ·) (Credentials.hidden_eq_iff.1 same).1
  have attempts : connector.connect credentials = connector.connect other :=
    discreet credentials other same
  simp only [openSession, Outcome.hidden, attempts, hosts, List.map_cons, Activity.hidden, same]

theorem agrees_provision (discreet : connector.Discreet)
    (same : credentials.hidden = other.hidden) (limit : Duration) (statements : List Statement) :
    (provision connector credentials limit statements).Agrees
      (provision connector other limit statements) := by
  have hosts := (Credentials.hidden_eq_iff.1 same).1
  unfold provision
  rw [hosts]
  split
  · rw [Credentials.hostList, Credentials.hostList, hosts]
    exact .refl _
  · exact (agrees_openSession discreet same).bind fun _ => .refl _

end Schema

/-! ## Runs -/

/-- The configuration with a password. -/
def Config.withPassword (config : Config) (password : String) : Config :=
  { config with database := { config.database with password := some password } }

theorem credentials_withPassword (config : Config) {password : String} (present : password ≠ "") :
    (config.withPassword password).database.credentials =
      config.database.credentials.map fun credentials =>
        { credentials with password := some password } := by
  have kept : DatabaseSettings.nonEmpty (some password) = some password := by
    simp [DatabaseSettings.nonEmpty, present]
  simp only [Config.withPassword, DatabaseSettings.credentials, kept]
  repeat' split
  all_goals rfl

namespace Steps

variable {Cluster : Type} {connector : Connector Cluster} {password other : String}

theorem agrees_provisionSchema (config : Config) (present : password ≠ "")
    (presentOther : other ≠ "") (discreet : connector.Discreet) :
    (provisionSchema (config.withPassword password) connector).Agrees
      (provisionSchema (config.withPassword other) connector) := by
  unfold provisionSchema
  rw [credentials_withPassword config present, credentials_withPassword config presentOther]
  cases config.database.credentials with
  | error fault =>
      intro world
      rfl
  | ok credentials =>
      have hidden : ({ credentials with password := some password } : Credentials).hidden =
          ({ credentials with password := some other } : Credentials).hidden :=
        rfl
      have schema := Schema.agrees_provision discreet hidden config.database.statementTimeout
        (Schema.statements config.schema.options)
      exact (schema.within _ _).mapFailure _

theorem agrees_perform (config : Config) (present : password ≠ "") (presentOther : other ≠ "")
    (discreet : connector.Discreet) (step : Step) :
    (perform (config.withPassword password) connector step).Agrees
      (perform (config.withPassword other) connector step) := by
  cases step with
  | schema => exact (agrees_provisionSchema config present presentOther discreet).bind fun _ => .refl _
  | certificate => exact .refl _

theorem agrees_attempt (config : Config) (present : password ≠ "") (presentOther : other ≠ "")
    (discreet : connector.Discreet) (position total : Nat) (step : Step) :
    (attempt (config.withPassword password) connector position total step).Agrees
      (attempt (config.withPassword other) connector position total step) := by
  have performed := agrees_perform config present presentOther discreet step
  apply Action.Agrees.bind (.refl _)
  intro _
  apply (performed.onFailureReport _).bind
  exact fun _ => .refl _

theorem agrees_runFrom (config : Config) (present : password ≠ "") (presentOther : other ≠ "")
    (discreet : connector.Discreet) (total position : Nat) (steps : List Step) :
    (runFrom (config.withPassword password) connector total position steps).Agrees
      (runFrom (config.withPassword other) connector total position steps) := by
  induction steps generalizing position with
  | nil => exact .refl _
  | cons step rest ih =>
      apply (agrees_attempt config present presentOther discreet position total step).bind
      intro outcome
      exact (ih (position + 1)).bind fun _ => .refl _

end Steps

/-! ## Connectors that do not look at the password -/

theorem Connector.discreet_unreachable (reason : String) (State : Type) :
    (Connector.unreachable reason State).Discreet := by
  intro credentials other same
  rcases Credentials.hidden_eq_iff.1 same with ⟨hosts, port, username, password⟩
  have hostList : credentials.hostList = other.hostList := congrArg (",".intercalate ·) hosts
  have user : credentials.authentication.map Prod.fst = other.authentication.map Prod.fst := by
    simp only [Credentials.authentication, username]
    cases other.username <;> cases own : credentials.password <;>
      cases others : other.password <;> simp [own, others] at password ⊢
  funext state
  simp only [Connector.unreachable, hosts, port, hostList]
  cases own : credentials.authentication <;> cases others : other.authentication <;>
    simp_all

theorem MemoryCluster.discreet_connector (refusal : Option String) (faults : List CallFault) :
    (MemoryCluster.connector refusal faults).Discreet :=
  fun _ _ _ => rfl

namespace Steps

/-- A configuration with a user. -/
def guarded : Config :=
  { database := { hosts := "node", port := 9042, username := some "admin" } }

/-- A cluster that refuses the second statement. -/
def refusing : Connector MemoryCluster :=
  MemoryCluster.connector none [{ call := 1, refusal := some ["read only"] }]

def emptyWorld : World MemoryCluster where
  cluster := {}
  workshop :=
    { disk := { tree := ⟨[]⟩, workingDirectory := [] }, clock := 0, keys := { seed := [] } }

/-- Two runs that differ in the password only answer the same and leave the same world, and their
traces are the same but for the password that opens a session. What is shown of credentials tells
their hosts, port, user name and whether there is a password, and nothing else. -/
theorem password_stays_secret :
    (∀ (Cluster : Type) (config : Config) (connector : Connector Cluster) (password other : String),
      password ≠ "" → other ≠ "" → connector.Discreet →
        ∀ (steps : List Step) (world : World Cluster),
          let first := run (config.withPassword password) connector steps world
          let second := run (config.withPassword other) connector steps world
          first.result = second.result ∧ first.state = second.state ∧
            first.trace.map Activity.hidden = second.trace.map Activity.hidden) ∧
      ∀ credentials other : Credentials,
        (credentials.inspect = other.inspect ↔
          credentials.hosts = other.hosts ∧ credentials.port = other.port ∧
            credentials.username = other.username ∧
            credentials.password.isSome = other.password.isSome) ∧
        (credentials.inspectIndented = other.inspectIndented ↔
          credentials.hosts = other.hosts ∧ credentials.port = other.port ∧
            credentials.username = other.username ∧
            credentials.password.isSome = other.password.isSome) := by
  constructor
  · intro Cluster config connector password other present presentOther discreet steps world
    exact Action.Agrees.parts
      (agrees_runFrom config present presentOther discreet steps.length 0 steps world)
  · intro credentials other
    exact ⟨Credentials.inspect_eq_iff.trans Credentials.hidden_eq_iff,
      Credentials.inspectIndented_eq_iff.trans Credentials.hidden_eq_iff⟩

theorem password_stays_secret_refused :
    "first" ≠ "" ∧ "second" ≠ "" ∧ refusing.Discreet ∧
      let first := run (guarded.withPassword "first") refusing [.schema] emptyWorld
      let second := run (guarded.withPassword "second") refusing [.schema] emptyWorld
      first.result = second.result ∧ first.state = second.state ∧
        first.trace.map Activity.hidden = second.trace.map Activity.hidden ∧
        first.trace ≠ second.trace := by
  have first : "first" ≠ "" := by decide
  have second : "second" ≠ "" := by decide
  have discreet : refusing.Discreet := MemoryCluster.discreet_connector _ _
  rcases password_stays_secret.1 MemoryCluster guarded refusing "first" "second" first second
    discreet [.schema] emptyWorld with ⟨results, states, traces⟩
  exact ⟨first, second, discreet, results, states, traces, by decide +kernel⟩

end Steps

end MailProvision
