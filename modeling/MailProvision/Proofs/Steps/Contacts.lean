import MailProvision.Proofs.Config.Database
import MailProvision.Proofs.Steps.Running

/-!
# How runs use the database section

A step on the cluster first turns the database section into credentials. What comes after it finds
credentials with hosts and a limit of at least a second (`Runner.FollowsSection`): the guards
against missing hosts are never reached, neither that of the provisioner
(`provisionSchema_eq_anyway`) nor that of a connector (`run_onNoHosts`). What one step does is
carried over to runs by induction on the steps.
-/

namespace MailProvision

/-- The connector with another answer to credentials without hosts. -/
def Connector.onNoHosts {State : Type} (connector : Connector State)
    (elsewhere : Credentials → State → Attempt State) : Connector State :=
  { connector with
    connect := fun credentials =>
      if credentials.hosts = [] then elsewhere credentials else connector.connect credentials }

namespace Schema

variable {State : Type} {connector other : Connector State} {limit : Duration}

/-- Statements are applied by calls alone. -/
theorem applyFrom_congr (same : connector.execute = other.execute) (index : Nat) (report : Report)
    (statements : List Statement) :
    applyFrom connector limit index report statements =
      applyFrom other limit index report statements := by
  induction statements generalizing index report with
  | nil => rfl
  | cons statement rest ih =>
      have calls (text : String) :
          execute connector limit index text = execute other limit index text := by
        unfold execute
        rw [same]
      rw [applyFrom, applyFrom, calls]
      simp only [ih]

theorem provision_onNoHosts (elsewhere : Credentials → State → Attempt State)
    (credentials : Credentials) (statements : List Statement) :
    provision (connector.onNoHosts elsewhere) credentials limit statements =
      provision connector credentials limit statements := by
  cases hosts : credentials.hosts with
  | nil =>
      -- The provisioner ends before it asks a connector.
      rw [provision, provision, hosts]
      rfl
  | cons host rest =>
      have connects : (connector.onNoHosts elsewhere).connect credentials =
          connector.connect credentials :=
        if_neg (by rw [hosts]; exact List.cons_ne_nil host rest)
      have applies := @applyFrom_congr State (connector.onNoHosts elsewhere) connector limit rfl
      have opens : openSession (connector.onNoHosts elsewhere) credentials =
          openSession connector credentials := by
        unfold openSession
        rw [connects]
      rw [provision, provision, opens, applies]
      rfl

/-- Provisioning that opens a session whether there is a host or not. -/
def provisionAnyway (connector : Connector State) (credentials : Credentials) (limit : Duration)
    (statements : List Statement) : Action State ProvisionError Report := do
  openSession connector credentials
  Action.ensuring connector.release .release
    (applyFrom connector limit 0 { executed := 0, appended := 0 } statements)

theorem provision_eq_provisionAnyway {credentials : Credentials} (hosts : credentials.hosts ≠ [])
    (statements : List Statement) :
    provision connector credentials limit statements =
      provisionAnyway connector credentials limit statements :=
  if_neg (by simpa using hosts)

/-- Statements fail by their calls alone. -/
theorem exists_failure_of_applyFrom {index : Nat} {report : Report} {statements : List Statement}
    {state : State} {error : ProvisionError}
    (failed : (applyFrom connector limit index report statements state).result = .error error) :
    ∃ call text reached failure,
      (connector.execute call text reached).failure? limit = some failure ∧
        error = failure.error limit call text := by
  induction statements generalizing index report state with
  | nil => cases failed
  | cons statement rest ih =>
      cases ended : (connector.execute index statement.text state).failure? limit with
      | some failure =>
          rw [applyFrom_of_failure report rest ended] at failed
          cases failed
          exact ⟨index, statement.text, state, failure, ended, rfl⟩
      | none =>
          rw [applyFrom_of_success report rest ended] at failed
          exact ih failed

end Schema

/-- Applies the schema of a configuration without the provisioner's own question for hosts. -/
def Steps.provisionSchemaAnyway {Cluster : Type} (config : Config)
    (connector : Connector Cluster) : Action (World Cluster) (Halt Error) Schema.Report := do
  let credentials ← Action.ofExcept
    (config.database.credentials.mapError fun fault => .failure (.config fault))
  onCluster <| Schema.provisionAnyway connector credentials config.database.statementTimeout
    (Schema.statements config.schema.options)

/-- A call that takes too long is not answered, or not within the limit. -/
theorem Reaction.lt_delay_of_overrun {State : Type} {reaction : Reaction State} {limit : Duration}
    (late : reaction.failure? limit = some .overrun) {answer : Answer State}
    (answered : reaction.answer = some answer) : limit.nanoseconds < answer.delay.nanoseconds := by
  by_contra inTime
  rw [failure?, answered] at late
  simp only [if_pos (Nat.not_lt.1 inTime)] at late
  cases refusal : answer.refusal with
  | none =>
      rw [refusal] at late
      cases late
  | some chain =>
      rw [refusal] at late
      cases late

namespace Runner

variable {Cluster : Type} (runner : Runner Cluster)

/-- An exchange with a cluster, which is only ever asked for a session with these credentials. -/
inductive Exchange (credentials : Credentials) : Activity → Prop
  | connect : Exchange credentials (.connect credentials)
  | execute (call : Nat) (text : String) : Exchange credentials (.execute call text)
  | release : Exchange credentials .release

/-- How an error of the cluster comes about: a refused attempt to open a session with the
credentials of the section, or a call that fails under the limit of the section. -/
inductive ClusterFailure (trace : List Activity) : ProvisionError → Prop
  | refused {credentials : Credentials} {cluster : Cluster} {reason : String}
      (usable : runner.config.database.credentials = .ok credentials)
      (asked : .connect credentials ∈ trace)
      (refused : (runner.connector.connect credentials cluster).refusal = some reason) :
      ClusterFailure trace (.connection credentials.hostList reason)
  | call {credentials : Credentials} {call : Nat} {text : String} {cluster : Cluster}
      {failure : CallFailure} (usable : runner.config.database.credentials = .ok credentials)
      (failed : (runner.connector.execute call text cluster).failure?
        runner.config.database.statementTimeout = some failure) :
      ClusterFailure trace (failure.error runner.config.database.statementTimeout call text)

variable {runner}

theorem ClusterFailure.mono {trace more : List Activity} {error : ProvisionError}
    (failure : runner.ClusterFailure trace error) (within : trace ⊆ more) :
    runner.ClusterFailure more error := by
  cases failure with
  | refused usable asked refused => exact .refused usable (within asked) refused
  | call usable failed => exact .call usable failed

/-! ## One step -/

theorem exchange_of_mem_outcome {step : Step} {world : World Cluster} {activity : Activity}
    (member : activity ∈ (runner.outcome step world).trace) :
    (∃ event, activity = .event event) ∨
      ∃ credentials, runner.config.database.credentials = .ok credentials ∧
        Exchange credentials activity := by
  have own : runner.OwnRecords world step (runner.outcome step world).trace :=
    ownRecords_outcome step world
  generalize (runner.outcome step world).trace = trace at own member
  cases own with
  | unusable _ => cases member
  | refused usable _ =>
      rcases List.mem_cons.mp member with rfl | told
      · exact .inr ⟨_, usable, .connect⟩
      · rcases List.mem_map.mp told with ⟨event, _, rfl⟩
        exact .inl ⟨event, rfl⟩
  | session usable _ inside =>
      rcases List.mem_cons.mp member with rfl | later
      · exact .inr ⟨_, usable, .connect⟩
      · rcases List.mem_append.mp later with body | final
        · rcases inside activity body with event | ⟨call, text, rfl⟩
          · exact .inl event
          · exact .inr ⟨_, usable, .execute call text⟩
        · rw [List.mem_singleton.mp final]
          exact .inr ⟨_, usable, .release⟩
  | certificate reports => exact .inl (reports activity member)

theorem clusterFailure_outcome {step : Step} {world : World Cluster} {error : ProvisionError}
    (failed : (runner.outcome step world).result = .error (.failure (.provision error))) :
    runner.ClusterFailure (runner.outcome step world).trace error := by
  cases step with
  | certificate =>
      rw [outcome_certificate, map_eq_error_iff, mapError_eq_error_iff] at failed
      rcases failed with ⟨cause, _, other⟩
      cases cause <;> cases other
  | schema =>
      cases usable : runner.config.database.credentials with
      | error fault =>
          rw [outcome_schema_of_unusable usable] at failed
          cases failed
      | ok credentials =>
          have hosts := hosts_ne_nil usable
          rw [outcome_schema_of_usable usable, map_eq_error_iff, mapError_eq_error_iff] at failed
          rcases failed with ⟨cause, provisioned, ⟨⟩⟩
          rw [outcome_schema_of_usable usable]
          unfold provision at provisioned ⊢
          cases attempted : (runner.connector.connect credentials world.cluster).refusal with
          | some reason =>
              rw [Schema.provision_of_refused hosts attempted] at provisioned ⊢
              cases provisioned
              exact .refused usable List.mem_cons_self attempted
          | none =>
              rw [Schema.provision_of_connected hosts attempted rfl] at provisioned
              rcases Schema.exists_failure_of_applyFrom provisioned with
                ⟨call, text, reached, failure, ended, rfl⟩
              exact .call usable ended

/-! ## Whole runs -/

section Run

variable {total position : Nat} {steps : List Step} {world : World Cluster}

/-- A run adds only reports to what a step leaves by itself. -/
theorem event_or_own_of_mem {step : Step} {own last : List Activity} {activity : Activity}
    (ended : ∀ activity ∈ last, ∃ event, activity = .event event)
    (member : activity ∈ begun step position total :: (own ++ last)) :
    (∃ event, activity = .event event) ∨ activity ∈ own := by
  rcases List.mem_cons.mp member with rfl | later
  · exact .inl ⟨_, rfl⟩
  · rcases List.mem_append.mp later with within | final
    · exact .inr within
    · exact .inl (ended activity final)

theorem event_of_mem_broken {step : Step} {halt : Halt Error} {activity : Activity}
    (member : activity ∈ broken step halt) : ∃ event, activity = .event event := by
  cases halt with
  | failure error => exact ⟨_, List.mem_singleton.mp member⟩
  | panic => cases member

theorem exchange_of_mem_runFrom {activity : Activity}
    (member : activity ∈
      (Steps.runFrom runner.config runner.connector total position steps world).trace) :
    (∃ event, activity = .event event) ∨
      ∃ credentials, runner.config.database.credentials = .ok credentials ∧
        Exchange credentials activity := by
  induction steps generalizing position world with
  | nil => cases member
  | cons step rest ih =>
      cases result : (runner.outcome step world).result with
      | error halt =>
          rw [runFrom_of_failure total position rest result] at member
          rcases event_or_own_of_mem (fun _ => event_of_mem_broken) member with event | own
          · exact .inl event
          · exact exchange_of_mem_outcome own
      | ok outcome =>
          rw [runFrom_of_success total position rest result] at member
          rcases List.mem_append.mp member with first | later
          · rcases event_or_own_of_mem (fun _ last => ⟨_, List.mem_singleton.mp last⟩) first with
              event | own
            · exact .inl event
            · exact exchange_of_mem_outcome own
          · exact ih later

theorem clusterFailure_runFrom {error : ProvisionError}
    (failed : (Steps.runFrom runner.config runner.connector total position steps world).result =
      .error (.failure (.provision error))) :
    runner.ClusterFailure
      (Steps.runFrom runner.config runner.connector total position steps world).trace error := by
  induction steps generalizing position world with
  | nil => cases failed
  | cons step rest ih =>
      cases result : (runner.outcome step world).result with
      | error cause =>
          rw [runFrom_of_failure total position rest result] at failed ⊢
          cases failed
          apply (clusterFailure_outcome result).mono
          exact List.subset_cons_of_subset _ (List.subset_append_left _ _)
      | ok outcome =>
          rw [runFrom_of_success total position rest result] at failed ⊢
          exact (ih ((map_eq_error_iff _).1 failed)).mono (List.subset_append_right _ _)

end Run

theorem provisionSchema_eq_anyway (config : Config) (connector : Connector Cluster) :
    Steps.provisionSchema config connector = Steps.provisionSchemaAnyway config connector := by
  funext world
  unfold Steps.provisionSchema Steps.provisionSchemaAnyway
  cases usable : config.database.credentials with
  | error fault =>
      rw [mapError_error]
      rfl
  | ok credentials =>
      have checked : (Action.ofExcept (.ok credentials) :
          Action (World Cluster) (Halt Error) Credentials) world =
            { result := .ok credentials, state := world, trace := [] } :=
        rfl
      rw [mapError_ok, Action.bind_of_ok checked, Action.bind_of_ok checked,
        Schema.provision_eq_provisionAnyway (hosts_ne_nil usable)]

theorem provisionSchema_onNoHosts (config : Config) (connector : Connector Cluster)
    (elsewhere : Credentials → Cluster → Attempt Cluster) :
    Steps.provisionSchema config (connector.onNoHosts elsewhere) =
      Steps.provisionSchema config connector := by
  unfold Steps.provisionSchema
  simp only [Schema.provision_onNoHosts]

/-- What a connector answers to credentials without hosts is never asked for. -/
theorem run_onNoHosts (runner : Runner Cluster)
    (elsewhere : Credentials → Cluster → Attempt Cluster) (steps : List Step) :
    Steps.run runner.config (runner.connector.onNoHosts elsewhere) steps =
      Steps.run runner.config runner.connector steps := by
  have performs (step : Step) :
      Steps.perform runner.config (runner.connector.onNoHosts elsewhere) step =
        Steps.perform runner.config runner.connector step := by
    cases step with
    | schema => rw [Steps.perform, Steps.perform, provisionSchema_onNoHosts]
    | certificate => rfl
  have runs (total position : Nat) (steps : List Step) :
      Steps.runFrom runner.config (runner.connector.onNoHosts elsewhere) total position steps =
        Steps.runFrom runner.config runner.connector total position steps := by
    induction steps generalizing position with
    | nil => rfl
    | cons step rest ih =>
        rw [Steps.runFrom, Steps.runFrom, Steps.attempt, Steps.attempt, performs, ih]
  exact runs steps.length 0 steps

/-- What a run exchanges with a cluster, and how it fails there, goes by the database section. -/
structure FollowsSection (runner : Runner Cluster)
    (ran : Outcome (World Cluster) (Halt Error) (List StepOutcome)) : Prop where
  /-- Sessions are opened with the credentials of the section, which name a host wherever they say
  where to connect. -/
  connects : ∀ credentials, .connect credentials ∈ ran.trace →
    runner.config.database.credentials = .ok credentials ∧
      runner.config.database.Describes credentials ∧ credentials.hosts ≠ [] ∧
      ∀ point ∈ credentials.contactPoints, credentials.IsContact point
  /-- A section that is refused is never acted upon. -/
  silent : ∀ fault, runner.config.database.credentials = .error fault →
    ∀ activity ∈ ran.trace, ∃ event, activity = .event event
  calls : ∀ call text, .execute call text ∈ ran.trace →
    1000000000 ≤ runner.config.database.statementTimeout.nanoseconds
  /-- Only a connector refuses a session, once it was asked for one. -/
  refusals : ∀ hosts reason,
    ran.result = .error (.failure (.provision (.connection hosts reason))) →
    ∃ credentials cluster, .connect credentials ∈ ran.trace ∧ hosts = credentials.hostList ∧
      (runner.connector.connect credentials cluster).refusal = some reason
  /-- Only a call that takes longer than the section says, a second at least, is given up. -/
  timeouts : ∀ call text limit,
    ran.result = .error (.failure (.provision (.timeout call text limit))) →
    limit = runner.config.database.statementTimeout ∧ 1000000000 ≤ limit.nanoseconds ∧
      ∃ cluster, ∀ answer, (runner.connector.execute call text cluster).answer = some answer →
        limit.nanoseconds < answer.delay.nanoseconds

theorem followsSection_run (runner : Runner Cluster) (steps : List Step) (world : World Cluster) :
    runner.FollowsSection (runner.run steps world) where
  connects credentials member := by
    rcases exchange_of_mem_runFrom member with ⟨_, ⟨⟩⟩ | ⟨other, usable, ⟨⟩⟩
    exact ⟨usable, DatabaseSettings.describes_of_usable usable, hosts_ne_nil usable,
      fun point => Credentials.isContact_of_mem fun _ =>
        DatabaseSettings.ne_empty_of_mem_hosts usable⟩
  silent fault refused activity member := by
    rcases exchange_of_mem_runFrom member with event | ⟨credentials, usable, _⟩
    · exact event
    · rw [refused] at usable
      cases usable
  calls call text member := by
    rcases exchange_of_mem_runFrom member with ⟨_, ⟨⟩⟩ | ⟨credentials, usable, _⟩
    exact DatabaseSettings.le_statementTimeout usable
  refusals hosts reason failed := by
    have failure := clusterFailure_runFrom failed
    generalize reported : ProvisionError.connection hosts reason = error at failure
    cases failure with
    | refused usable asked refused =>
        cases reported
        exact ⟨_, _, asked, rfl, refused⟩
    | @call _ _ _ _ failure usable ended => cases failure <;> cases reported
  timeouts call text limit failed := by
    have failure := clusterFailure_runFrom failed
    generalize reported : ProvisionError.timeout call text limit = error at failure
    cases failure with
    | refused usable asked refused => cases reported
    | @call _ _ _ cluster failure usable ended =>
        cases failure with
        | refused chain => cases reported
        | overrun =>
            cases reported
            exact ⟨rfl, DatabaseSettings.le_statementTimeout usable, cluster, fun answer =>
              Reaction.lt_delay_of_overrun ended⟩

/-- The database section is accepted if and only if the values of its four keys are sound, and the
refusal names the first that is not. The credentials say what the section says, every run goes by
them, and no run depends on what a connector answers to credentials without hosts, or on whether the
provisioner asks for hosts. -/
theorem runs_follow_sound_section (runner : Runner Cluster) :
    let database := runner.config.database
    ((∃ credentials, database.credentials = .ok credentials) ↔ ∀ key, database.Sound key) ∧
      ((¬∀ key, database.Sound key) →
        ∃ key, FirstFailing database.Sound DatabaseKey.inOrder key ∧
          database.credentials = .error key.fault ∧
          (Error.config key.fault).code = "CONFIG_ERROR" ∧
          (Error.config key.fault).message =
            "Configuration error: database." ++ key.name ++ " must " ++ key.demand) ∧
      (∀ credentials, database.credentials = .ok credentials → database.Describes credentials) ∧
      (∀ steps world, runner.FollowsSection (runner.run steps world)) ∧
      (∀ elsewhere steps,
        Steps.run runner.config (runner.connector.onNoHosts elsewhere) steps =
          Steps.run runner.config runner.connector steps) ∧
      Steps.provisionSchema runner.config runner.connector =
        Steps.provisionSchemaAnyway runner.config runner.connector := by
  intro database
  refine ⟨⟨?_, ?_⟩, ?_, fun _ => DatabaseSettings.describes_of_usable, followsSection_run runner,
    run_onNoHosts runner, provisionSchema_eq_anyway runner.config runner.connector⟩
  · rintro ⟨credentials, usable⟩
    exact (DatabaseSettings.credentials_eq_ok_iff.1 usable).1
  · intro sound
    exact ⟨database.described, DatabaseSettings.credentials_eq_ok_iff.2 ⟨sound, rfl⟩⟩
  · intro unsound
    rcases exists_firstFailing fun each => unsound fun key => each key key.mem_inOrder with
      ⟨key, first⟩
    exact ⟨key, first, DatabaseSettings.credentials_of_unsound first, rfl, key.message_fault⟩

/-- A section without a port and without time for a statement. -/
def withoutPort : Runner (List String) where
  config := { database := { hosts := " , a", port := 0, statementTimeoutSeconds := 0 } }
  connector := .recording

/-- A section with a host among blanks and a user whose password is empty. -/
def withEmptyPassword : Runner (List String) where
  config :=
    { database := { hosts := " , a", port := 9042, username := some "u", password := some "" } }
  connector := .recording

theorem runs_follow_sound_section_port :
    let opened : Credentials :=
      { hosts := ["a"], port := 9042, username := some "u", password := none }
    (¬∀ key, withoutPort.config.database.Sound key) ∧
      withoutPort.config.database.credentials = .error .zeroPort ∧
      withEmptyPassword.config.database.credentials = .ok opened ∧
      withEmptyPassword.config.database.Describes opened ∧
      .connect opened ∈ (withEmptyPassword.run [.schema] unused).trace ∧
      ∀ point ∈ opened.contactPoints, opened.IsContact point := by
  intro opened
  have noPort : ¬withoutPort.config.database.Sound .port := by decide +kernel
  have unsound : ¬∀ key, withoutPort.config.database.Sound key := fun sound => noPort (sound .port)
  have usable : withEmptyPassword.config.database.credentials = .ok opened := by decide +kernel
  have connects : .connect opened ∈ (withEmptyPassword.run [.schema] unused).trace := by
    decide +kernel
  rcases (runs_follow_sound_section withoutPort).2.1 unsound with ⟨key, first, refused, _⟩
  have isPort : key = .port := first.unique (.later (by decide +kernel) (.here noPort))
  rw [isPort] at refused
  have follows := (runs_follow_sound_section withEmptyPassword).2.2
  exact ⟨unsound, refused, usable, follows.1 opened usable, connects,
    ((follows.2.1 [.schema] unused).connects opened connects).2.2.2⟩

end Runner

end MailProvision
