import MailProvision.Proofs.Certificate.Minting
import MailProvision.Proofs.Config.Database
import MailProvision.Proofs.Schema.Lifecycle
import MailProvision.Steps

/-!
# What a step leaves in a trace

Minting reports events and exchanges nothing with a cluster. A step on the cluster leaves nothing if
the credentials are refused, one attempt if the connection is, and otherwise a session from its
connection to its release (`Runner.OwnRecords`); so no session outlives its step. Where a cluster
accepts everything (`Runner.Accepted`) the step on it succeeds.
-/

namespace MailProvision

namespace Action

variable {State Failure Value Result : Type}

/-- The action reports events and exchanges nothing with a cluster. -/
def OnlyReports (action : Action State Failure Value) : Prop :=
  ∀ state, ∀ activity ∈ (action state).trace, ∃ event, activity = .event event

namespace OnlyReports

theorem of_silent {action : Action State Failure Value}
    (silent : ∀ state, (action state).trace = []) : action.OnlyReports := by
  intro state activity member
  rw [silent] at member
  cases member

theorem report (event : Event) : (Action.report event : Action State Failure Unit).OnlyReports := by
  intro state activity member
  exact ⟨event, List.mem_singleton.mp member⟩

theorem bind {first : Action State Failure Value} {next : Value → Action State Failure Result}
    (before : first.OnlyReports) (after : ∀ value, (next value).OnlyReports) :
    (first >>= next).OnlyReports := by
  intro state activity member
  cases ran : first state with
  | mk result reached trace =>
      have traced : (first state).trace = trace := by rw [ran]
      cases result with
      | error failure =>
          rw [bind_of_error ran] at member
          apply before state activity
          rwa [traced]
      | ok value =>
          rw [bind_of_ok ran] at member
          rcases List.mem_append.mp member with early | late
          · apply before state activity
            rwa [traced]
          · exact after value reached activity late

theorem mapFailure {Other : Type} {action : Action State Failure Value}
    (reports : action.OnlyReports) (convert : Failure → Other) :
    (action.mapFailure convert).OnlyReports :=
  reports

theorem within {Whole : Type} {action : Action State Failure Value} (reports : action.OnlyReports)
    (part : Whole → State) (replace : State → Whole → Whole) :
    (action.within part replace).OnlyReports := by
  intro whole
  exact reports (part whole)

theorem onFailure {action : Action State Failure Value} (reports : action.OnlyReports)
    (repair : State → State) : (action.onFailure repair).OnlyReports := by
  intro state activity member
  apply reports state activity
  cases ran : action state with
  | mk result reached trace =>
      cases result with
      | error failure =>
          rw [onFailure_of_error repair ran] at member
          exact member
      | ok value =>
          rw [onFailure_of_ok repair ran] at member
          exact member

end OnlyReports

end Action

/-! ### What minting leaves in a trace -/

namespace StagedFile

open MailProvision.Action

theorem onlyReports_complete (location : Location) (content : List UInt8) (mode : Nat)
    (obstacle? : Option Obstacle) : (complete location content mode obstacle?).OnlyReports := by
  cases obstacle? with
  | none =>
      apply OnlyReports.bind (OnlyReports.of_silent fun _ => rfl)
      intro _
      exact OnlyReports.of_silent fun _ => rfl
  | some obstacle =>
      apply OnlyReports.bind (OnlyReports.of_silent fun _ => rfl)
      intro _
      exact OnlyReports.of_silent fun _ => rfl

theorem onlyReports_prepare (staged : StagedFile) (location : Location) (content : List UInt8)
    (mode : Nat) : (prepare staged location content mode).OnlyReports := by
  unfold prepare
  apply OnlyReports.bind (OnlyReports.of_silent fun _ => rfl)
  intro obstacle?
  apply (((onlyReports_complete location content mode obstacle?).onFailure _).mapFailure _).bind
  intro _
  apply OnlyReports.bind (OnlyReports.of_silent fun _ => rfl)
  intro workingDirectory
  apply (OnlyReports.report _).bind
  intro _
  exact OnlyReports.of_silent fun _ => rfl

theorem onlyReports_stage (destination : String) (content : List UInt8) (mode : Nat) :
    (stage destination content mode).OnlyReports := by
  have created : (createTemporary (directoryOf destination)).OnlyReports := by
    apply OnlyReports.of_silent
    intro disk
    simp only [createTemporary]
    split <;> rfl
  unfold stage
  apply (created.mapFailure _).bind
  rintro ⟨location, number⟩
  exact onlyReports_prepare _ location content mode

theorem onlyReports_commit (staged : StagedFile) : staged.commit.OnlyReports := by
  have moved : (Disk.attempt fun tree workingDirectory =>
      tree.rename workingDirectory staged.directory staged.number
        staged.destination).OnlyReports := by
    apply OnlyReports.of_silent
    intro disk
    simp only [Disk.attempt]
    split <;> rfl
  unfold commit
  apply ((moved.onFailure _).mapFailure _).bind
  intro _
  exact OnlyReports.of_silent fun _ => rfl

end StagedFile

namespace KeyMaterial

open MailProvision.Action

theorem onlyReports_signCertificate (key : PrivateKey) (name : DistinguishedName)
    (serialNumber : Nat) (notBefore notAfter : Int) :
    (signCertificate key name serialNumber notBefore notAfter).OnlyReports := by
  unfold signCertificate
  split
  · exact OnlyReports.of_silent fun _ => rfl
  · exact OnlyReports.of_silent fun _ => rfl

theorem onlyReports_generate (bits : Nat) (subject : Subject) :
    (generate bits subject).OnlyReports := by
  unfold generate
  apply OnlyReports.bind (OnlyReports.of_silent fun _ => rfl)
  intro _
  apply OnlyReports.bind (OnlyReports.of_silent fun _ => rfl)
  intro _
  apply OnlyReports.bind (OnlyReports.of_silent fun _ => rfl)
  intro seconds
  apply OnlyReports.bind (OnlyReports.of_silent fun _ => rfl)
  intro notBefore
  apply OnlyReports.bind (OnlyReports.of_silent fun _ => rfl)
  intro notAfter
  apply (OnlyReports.report _).bind
  intro _
  apply OnlyReports.bind (OnlyReports.of_silent fun _ => rfl)
  intro _
  apply OnlyReports.bind (OnlyReports.of_silent fun _ => rfl)
  intro key
  apply OnlyReports.bind (OnlyReports.of_silent fun _ => rfl)
  intro name
  apply (onlyReports_signCertificate _ _ _ _ _).bind
  intro certificate
  apply (OnlyReports.report _).bind
  intro _
  exact OnlyReports.of_silent fun _ => rfl

theorem onlyReports_write (material : KeyMaterial) (certificatePath keyPath : String) :
    (material.write certificatePath keyPath).OnlyReports := by
  unfold write
  apply (StagedFile.onlyReports_stage _ _ _).bind
  intro key
  apply ((StagedFile.onlyReports_stage _ _ _).onFailure _).bind
  intro certificate
  apply (key.onlyReports_commit.onFailure _).bind
  intro keyPath
  apply (OnlyReports.report _).bind
  intro _
  apply certificate.onlyReports_commit.bind
  intro certificatePath
  apply (OnlyReports.report _).bind
  intro _
  exact OnlyReports.of_silent fun _ => rfl

end KeyMaterial

theorem onlyReports_mint (bits : Nat) (subject : Subject) (certificatePath keyPath : String) :
    (mint bits subject certificatePath keyPath).OnlyReports := by
  unfold mint
  apply (KeyMaterial.onlyReports_generate bits subject).bind
  intro material
  apply Action.OnlyReports.bind
  · exact ((material.onlyReports_write certificatePath keyPath).within _ _).mapFailure _
  · rintro ⟨certificatePath, keyPath⟩
    exact Action.OnlyReports.of_silent fun _ => rfl

namespace Steps

open MailProvision.Action

/-- There is something to do only for a path that names a directory. -/
theorem ensureParent_cases (path : String) :
    ((∀ parent, Path.parent? path = some parent → parent = "") ∧
        ensureParent path = Action.done ()) ∨
      ∃ parent, Path.parent? path = some parent ∧ parent ≠ "" ∧
        ensureParent path = Workshop.onDisk
          ((Disk.makeDirectories parent).mapFailure fun cause => { path := parent, cause }) := by
  unfold ensureParent
  cases Path.parent? path with
  | none =>
      refine .inl ⟨?_, rfl⟩
      rintro _ ⟨⟩
  | some parent =>
      by_cases here : parent = ""
      · subst parent
        exact .inl ⟨fun _ same => (Option.some.inj same).symm, rfl⟩
      · have named : parent.isEmpty = false := by simpa [String.isEmpty_iff] using here
        simp only [named]
        exact .inr ⟨parent, rfl, here, rfl⟩

theorem keeps_clock_ensureParent (path : String) : (ensureParent path).Keeps Workshop.clock := by
  rcases ensureParent_cases path with ⟨_, unnamed⟩ | ⟨parent, _, _, named⟩
  · rw [unnamed]
    exact fun _ => rfl
  · rw [named]
    exact fun _ => rfl

theorem ensureParent_ne_panic (path : String) (workshop : Workshop) :
    (ensureParent path workshop).result ≠ .error .panic := by
  rcases ensureParent_cases path with ⟨_, unnamed⟩ | ⟨parent, _, _, named⟩
  · rw [unnamed]
    rintro ⟨⟩
  · rw [named]
    exact Workshop.onDisk_ne_panic _ _

theorem onlyReports_ensureParent (path : String) : (ensureParent path).OnlyReports := by
  rcases ensureParent_cases path with ⟨_, unnamed⟩ | ⟨parent, _, _, named⟩
  · rw [unnamed]
    exact OnlyReports.of_silent fun _ => rfl
  · rw [named]
    exact OnlyReports.of_silent fun _ => rfl

theorem onlyReports_mintCertificate (settings : CertificateSettings) :
    (mintCertificate settings).OnlyReports := by
  unfold mintCertificate
  apply (onlyReports_ensureParent _).bind
  intro _
  apply (onlyReports_ensureParent _).bind
  intro _
  apply (onlyReports_mint _ _ _ _).bind
  intro minted
  apply (OnlyReports.report _).bind
  intro _
  exact OnlyReports.of_silent fun _ => rfl

/-- The step panics only if nothing is refused and a moment cannot be written. -/
theorem drafted_of_panic {settings : CertificateSettings} {workshop : Workshop}
    (panicked : (mintCertificate settings workshop).result = .error .panic) :
    ∃ notBefore notAfter name,
      KeyMaterial.Drafted settings.keyBits.toNat settings.subject workshop.seconds notBefore
        notAfter name ∧ ¬CertificateTime.Writable notBefore notAfter := by
  unfold mintCertificate at panicked
  rcases bind_error_iff.1 panicked with unmade | ⟨_, _, panicked⟩
  · exact absurd unmade (ensureParent_ne_panic _ _)
  rcases bind_error_iff.1 panicked with unmade | ⟨_, _, panicked⟩
  · exact absurd unmade (ensureParent_ne_panic _ _)
  rcases bind_error_iff.1 panicked with unminted | ⟨_, _, panicked⟩
  · have drafted := KeyMaterial.generate_panic_iff.1 (Workshop.mint_panic_iff.1 unminted)
    unfold Workshop.seconds at drafted
    rw [keeps_clock_ensureParent, keeps_clock_ensureParent] at drafted
    exact drafted
  · rcases bind_error_iff.1 panicked with ⟨⟨⟩⟩ | ⟨_, _, ⟨⟩⟩

end Steps

/-! ### What a step on the cluster leaves -/

namespace Schema

variable {State : Type} {connector : Connector State} {limit : Duration}

theorem mem_recordsOf {index : Nat} {statement : Statement} {activity : Activity}
    (member : activity ∈ recordsOf index statement) :
    (∃ event, activity = .event event) ∨ ∃ call text, activity = .execute call text := by
  have listed : activity ∈ recordsFrom index [statement] := by simpa [recordsFrom] using member
  exact ClusterRun.mem_recordsFrom listed

/-- Between the connection and the release there are reports and calls only. -/
theorem mem_applyFrom {index : Nat} {report : Report} {statements : List Statement} {state : State}
    {activity : Activity}
    (member : activity ∈ (applyFrom connector limit index report statements state).trace) :
    (∃ event, activity = .event event) ∨ ∃ call text, activity = .execute call text := by
  induction statements generalizing index report state with
  | nil => exact .inl ⟨_, List.mem_singleton.mp member⟩
  | cons statement rest ih =>
      cases failed : (connector.execute index statement.text state).failure? limit with
      | some failure =>
          rw [applyFrom_of_failure report rest failed] at member
          exact mem_recordsOf member
      | none =>
          rw [applyFrom_of_success report rest failed] at member
          rcases List.mem_append.mp member with here | later
          · exact mem_recordsOf here
          · exact ih later

end Schema

/-- The connector of a cluster that accepts everything at once and keeps the texts it was given. -/
def Connector.recording : Connector (List String) where
  connect _ texts := { events := [], state := texts, refusal := none }
  execute _ text texts :=
    { received := texts
      answer := some { delay := ⟨0⟩, refusal := none, state := texts ++ [text] } }
  release texts := texts

/-- A configuration together with a way to its cluster. -/
structure Runner (Cluster : Type) where
  config : Config
  connector : Connector Cluster

namespace Runner

variable {Cluster : Type} (runner : Runner Cluster)

/-- What a step comes to in a world. -/
def outcome (step : Step) (world : World Cluster) :
    Outcome (World Cluster) (Halt Error) StepOutcome :=
  Steps.perform runner.config runner.connector step world

/-- What a step leaves in the trace by itself. A session that it opens is closed at the end. -/
inductive OwnRecords (world : World Cluster) : Step → List Activity → Prop
  | unusable {fault : ConfigFault} (unusable : runner.config.database.credentials = .error fault) :
      OwnRecords world .schema []
  | refused {credentials : Credentials} {reason : String}
      (usable : runner.config.database.credentials = .ok credentials)
      (refused : (runner.connector.connect credentials world.cluster).refusal = some reason) :
      OwnRecords world .schema
        (.connect credentials ::
          (runner.connector.connect credentials world.cluster).events.map .event)
  | session {credentials : Credentials} {body : List Activity}
      (usable : runner.config.database.credentials = .ok credentials)
      (connected : (runner.connector.connect credentials world.cluster).refusal = none)
      (inside : ∀ activity ∈ body,
        (∃ event, activity = .event event) ∨ ∃ call text, activity = .execute call text) :
      OwnRecords world .schema (.connect credentials :: (body ++ [.release]))
  | certificate {trace : List Activity}
      (reports : ∀ activity ∈ trace, ∃ event, activity = .event event) :
      OwnRecords world .certificate trace

/-- The statements that the configuration asks for. -/
def statements : List Statement :=
  Schema.statements runner.config.schema.options

/-- What provisioning the schema comes to on a cluster. -/
def provision (credentials : Credentials) (cluster : Cluster) :
    Outcome Cluster ProvisionError Schema.Report :=
  Schema.provision runner.connector credentials runner.config.database.statementTimeout
    runner.statements cluster

/-- The cluster opens a session and takes every statement in time. -/
structure Accepted (credentials : Credentials) (cluster : Cluster) : Prop where
  connected : (runner.connector.connect credentials cluster).refusal = none
  taken : ∀ position,
    Session.failure?
      { connector := runner.connector, limit := runner.config.database.statementTimeout }
      (runner.connector.connect credentials cluster).state runner.statements position = none

variable {runner}

theorem outcome_schema_of_unusable {fault : ConfigFault}
    (unusable : runner.config.database.credentials = .error fault) (world : World Cluster) :
    runner.outcome .schema world =
      { result := .error (.failure (.config fault)), state := world, trace := [] } := by
  rw [outcome, Steps.perform, Action.bind_pure_run, Steps.provisionSchema, unusable,
    mapError_error]
  rfl

theorem outcome_schema_of_usable {credentials : Credentials}
    (usable : runner.config.database.credentials = .ok credentials) (world : World Cluster) :
    runner.outcome .schema world =
      { result := ((runner.provision credentials world.cluster).result.mapError fun error =>
          .failure (.provision error)).map .schema
        state := { world with cluster := (runner.provision credentials world.cluster).state }
        trace := (runner.provision credentials world.cluster).trace } := by
  rw [outcome, Steps.perform, Action.bind_pure_run, Steps.provisionSchema, usable, mapError_ok]
  rfl

theorem outcome_certificate (world : World Cluster) :
    runner.outcome .certificate world =
      { result := ((Steps.mintCertificate runner.config.certificate world.workshop).result.mapError
          (Halt.map .mint)).map .certificate
        state :=
          { world with
            workshop := (Steps.mintCertificate runner.config.certificate world.workshop).state }
        trace := (Steps.mintCertificate runner.config.certificate world.workshop).trace } := by
  rw [outcome, Steps.perform, Action.bind_pure_run]
  rfl

/-- Only the certificate step can panic. -/
theorem certificate_of_panic {step : Step} {world : World Cluster}
    (panicked : (runner.outcome step world).result = .error .panic) :
    step = .certificate ∧
      (Steps.mintCertificate runner.config.certificate world.workshop).result = .error .panic := by
  cases step with
  | schema =>
      cases usable : runner.config.database.credentials with
      | error fault =>
          rw [outcome_schema_of_unusable usable] at panicked
          cases panicked
      | ok credentials =>
          rw [outcome_schema_of_usable usable, map_eq_error_iff, mapError_eq_error_iff] at panicked
          obtain ⟨_, _, other⟩ := panicked
          cases other
  | certificate =>
      rw [outcome_certificate, map_eq_error_iff, mapError_eq_error_iff] at panicked
      rcases panicked with ⟨cause, minted, mapped⟩
      cases cause with
      | failure error => cases mapped
      | panic => exact ⟨rfl, minted⟩

theorem accepted_of_recording {config : Config} (credentials : Credentials)
    (texts : List String) :
    Accepted { config, connector := .recording } credentials texts := by
  refine ⟨rfl, ?_⟩
  intro position
  unfold Session.failure? Session.failureFrom?
  cases (statements { config, connector := Connector.recording })[position]? with
  | none => rfl
  | some statement =>
      simp [Connector.recording, Reaction.failure?]

theorem hosts_ne_nil {database : DatabaseSettings} {credentials : Credentials}
    (usable : database.credentials = .ok credentials) : credentials.hosts ≠ [] := by
  rcases DatabaseSettings.credentials_eq_ok_iff.1 usable with ⟨sound, rfl⟩
  exact database.parseHosts_ne_nil_iff.2 (sound .hosts)

theorem provision_of_accepted {credentials : Credentials} {cluster : Cluster}
    (usable : runner.config.database.credentials = .ok credentials)
    (accepted : runner.Accepted credentials cluster) :
    (runner.provision credentials cluster).result =
        .ok
          { executed := runner.statements.length
            appended := Schema.appendCount runner.statements } ∧
      Schema.executions (runner.provision credentials cluster).trace =
        Schema.numbered 0 runner.statements := by
  have finishes := Schema.finishes_of_success (hosts_ne_nil usable) accepted.connected
    accepted.taken
  exact ⟨finishes.result, finishes.received⟩

theorem exists_report_of_accepted {credentials : Credentials} {world : World Cluster}
    (usable : runner.config.database.credentials = .ok credentials)
    (accepted : runner.Accepted credentials world.cluster) :
    ∃ report, (runner.outcome .schema world).result = .ok (.schema report) := by
  have provisioned := provision_of_accepted usable accepted
  rw [outcome_schema_of_usable usable, provisioned.1, mapError_ok, map_ok]
  exact ⟨_, rfl⟩

theorem ownRecords_outcome (step : Step) (world : World Cluster) :
    runner.OwnRecords world step (runner.outcome step world).trace := by
  cases step with
  | certificate =>
      rw [outcome_certificate]
      exact .certificate (Steps.onlyReports_mintCertificate _ world.workshop)
  | schema =>
      cases usable : runner.config.database.credentials with
      | error fault =>
          rw [outcome_schema_of_unusable usable]
          exact .unusable usable
      | ok credentials =>
          rw [outcome_schema_of_usable usable]
          have hosts := hosts_ne_nil usable
          unfold provision
          cases connected : (runner.connector.connect credentials world.cluster).refusal with
          | some reason =>
              rw [Schema.provision_of_refused hosts connected]
              exact .refused usable connected
          | none =>
              rw [Schema.provision_of_connected hosts connected rfl, ← List.append_assoc]
              apply OwnRecords.session usable connected
              intro activity member
              rcases List.mem_append.mp member with told | applied
              · rcases List.mem_map.mp told with ⟨event, _, rfl⟩
                exact .inl ⟨event, rfl⟩
              · exact Schema.mem_applyFrom applied

end Runner

end MailProvision
