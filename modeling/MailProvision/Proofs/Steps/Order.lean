import MailProvision.Proofs.Certificate.Minting
import MailProvision.Proofs.Files.Outline
import MailProvision.Proofs.Steps.Running

/-!
# The order of steps

One kind of step works on the cluster and the other in the workshop, so neighbours of different
kinds can change places (`Runner.Reaches`). Two runs that draw different keys do the same apart from
what the files hold (`Action.Respects`); together these compare any two runs of the same steps.
-/

namespace MailProvision

namespace Action

variable {State Failure Value Result : Type} {related : State → State → Prop}

/-- If the action succeeds, it succeeds in every related state with the same value, and leaves
related states. -/
def Respects (related : State → State → Prop) (action : Action State Failure Value) : Prop :=
  ∀ state other value, related state other → (action state).result = .ok value →
    (action other).result = .ok value ∧ related (action state).state (action other).state

namespace Respects

theorem of_still {action : Action State Failure Value} {result : Except Failure Value}
    (still : ∀ state, (action state).state = state)
    (constant : ∀ state, (action state).result = result) : action.Respects related := by
  intro state other value relates succeeded
  rw [still, still, constant]
  rw [constant] at succeeded
  exact ⟨succeeded, relates⟩

theorem bind {first : Action State Failure Value} {next : Value → Action State Failure Result}
    (before : first.Respects related) (after : ∀ value, (next value).Respects related) :
    (first >>= next).Respects related := by
  intro state other result relates succeeded
  rcases bind_ok_iff.1 succeeded with ⟨value, first_ok, next_ok⟩
  rcases before state other value relates first_ok with ⟨other_ok, reached⟩
  rcases after value _ _ result reached next_ok with ⟨others_ok, final⟩
  rw [bind_state first_ok, bind_state other_ok]
  exact ⟨bind_ok_iff.2 ⟨value, other_ok, others_ok⟩, final⟩

theorem report (event : Event) :
    (Action.report event : Action State Failure Unit).Respects related :=
  of_still (fun _ => rfl) fun _ => rfl

end Respects

end Action

/-- Two workshops that differ only in what files hold and in where keys come from. -/
structure Workshop.Alike (workshop other : Workshop) : Prop where
  tree : workshop.disk.tree.SameOutline other.disk.tree
  workingDirectory : workshop.disk.workingDirectory = other.disk.workingDirectory
  obstacles : workshop.disk.obstacles = other.disk.obstacles
  clock : workshop.clock = other.clock

namespace Workshop.Alike

variable {workshop other : Workshop}

theorem symm (alike : workshop.Alike other) : other.Alike workshop :=
  ⟨alike.tree.symm, alike.workingDirectory.symm, alike.obstacles.symm, alike.clock.symm⟩

theorem seconds (alike : workshop.Alike other) : workshop.seconds = other.seconds := by
  unfold Workshop.seconds
  rw [alike.clock]

theorem progress (alike : workshop.Alike other) (certificatePath keyPath : String) :
    workshop.progress certificatePath keyPath = other.progress certificatePath keyPath :=
  (Disk.progressTo_of_sameDirectories alike.tree.isDirectoryAt alike.workingDirectory.symm
    alike.obstacles.symm certificatePath keyPath).symm

end Workshop.Alike

theorem KeyMaterial.sameOutline_place (material other : KeyMaterial) {tree tree' : FileTree}
    (same : tree.SameOutline tree') (progress : Progress) :
    (material.place tree progress).SameOutline (other.place tree' progress) := by
  cases progress with
  | nothing path => exact same
  | keyOnly keyPlace => exact same.insert keyPlace rfl
  | both keyPlace certificatePlace =>
      have keys : (tree.insert keyPlace material.keyEntry).SameOutline
          (tree'.insert keyPlace other.keyEntry) := same.insert keyPlace rfl
      exact keys.insert certificatePlace rfl

/-- What is put in place of a pair again changes nothing but what the two files hold. -/
theorem KeyMaterial.sameOutline_place_again (material other : KeyMaterial) (tree : FileTree)
    (progress : Progress) :
    (material.place tree progress).SameOutline
      (other.place (material.place tree progress) progress) := by
  cases progress with
  | nothing path => exact .refl tree
  | keyOnly keyPlace =>
      intro seen
      simp only [place, FileTree.get?_insert]
      by_cases onKey : seen = keyPlace ∧ seen ≠ []
      · rw [if_pos onKey, if_pos onKey]
        rfl
      · rw [if_neg onKey, if_neg onKey]
  | both keyPlace certificatePlace =>
      intro seen
      simp only [place, FileTree.get?_insert]
      by_cases onCertificate : seen = certificatePlace ∧ seen ≠ []
      · rw [if_pos onCertificate, if_pos onCertificate]
        rfl
      · rw [if_neg onCertificate, if_neg onCertificate]
        by_cases onKey : seen = keyPlace ∧ seen ≠ []
        · rw [if_pos onKey, if_pos onKey]
          rfl
        · rw [if_neg onKey, if_neg onKey]

theorem respects_mint (bits : Nat) (subject : Subject) (certificatePath keyPath : String) :
    (mint bits subject certificatePath keyPath).Respects Workshop.Alike := by
  intro workshop other minted alike succeeded
  rcases Workshop.mint_ok_iff.1 succeeded with
    ⟨notBefore, notAfter, name, keyPlace, certificatePlace, planned, reached, rfl⟩
  have planned' := planned
  have reached' := reached
  rw [alike.seconds] at planned'
  rw [alike.progress] at reached'
  refine ⟨Workshop.mint_ok_iff.2 ⟨_, _, _, _, _, planned', reached', rfl⟩, ?_⟩
  have mints := Workshop.mints_of_planned planned certificatePath keyPath
  have mints' := Workshop.mints_of_planned planned' certificatePath keyPath
  constructor
  · rw [mints.tree, mints'.tree, alike.progress]
    exact KeyMaterial.sameOutline_place _ _ alike.tree _
  · rw [mints.workingDirectory, mints'.workingDirectory, alike.workingDirectory]
  · rw [mints.obstacles, mints'.obstacles, alike.obstacles]
  · rw [Workshop.keeps_clock_mint, Workshop.keeps_clock_mint, alike.clock]

namespace Steps

open MailProvision.Action

theorem makeDirectories_run (path : String) (workshop : Workshop) :
    Workshop.onDisk ((Disk.makeDirectories path).mapFailure fun cause => { path, cause }) workshop =
      { result :=
          ((workshop.disk.tree.makeDirectories workshop.disk.workingDirectory path).2.mapError
            (WriteFault.mk path)).mapError fun fault =>
              .failure (.persistence fault.path fault.cause)
        state :=
          { workshop with
            disk := workshop.disk.replaceTree
              (workshop.disk.tree.makeDirectories workshop.disk.workingDirectory path).1 }
        trace := [] } :=
  rfl

theorem respects_makeDirectories (path : String) :
    (Workshop.onDisk ((Disk.makeDirectories path).mapFailure fun cause =>
      { path, cause })).Respects Workshop.Alike := by
  intro workshop other value alike succeeded
  have made := alike.tree.makeDirectories workshop.disk.workingDirectory path
  rw [makeDirectories_run] at succeeded ⊢
  rw [makeDirectories_run, ← alike.workingDirectory, ← made.result]
  exact ⟨succeeded, made.tree, alike.workingDirectory, alike.obstacles, alike.clock⟩

theorem respects_ensureParent (path : String) :
    (ensureParent path).Respects Workshop.Alike := by
  rcases ensureParent_cases path with ⟨_, unnamed⟩ | ⟨parent, _, _, named⟩
  · rw [unnamed]
    exact .of_still (fun _ => rfl) fun _ => rfl
  · rw [named]
    exact respects_makeDirectories parent

theorem respects_mintCertificate (settings : CertificateSettings) :
    (mintCertificate settings).Respects Workshop.Alike := by
  unfold mintCertificate
  apply (respects_ensureParent _).bind
  intro _
  apply (respects_ensureParent _).bind
  intro _
  apply (respects_mint _ _ _ _).bind
  intro minted
  apply (Respects.report _).bind
  intro _
  exact .of_still (fun _ => rfl) fun _ => rfl

theorem keeps_clock_mintCertificate (settings : CertificateSettings) :
    (mintCertificate settings).Keeps Workshop.clock := by
  unfold mintCertificate
  apply (keeps_clock_ensureParent _).bind
  intro _
  apply (keeps_clock_ensureParent _).bind
  intro _
  apply (Workshop.keeps_clock_mint _ _ _ _).bind
  intro minted
  exact fun _ => rfl

/-- The certificate that settings ask for at a moment. -/
def expected (settings : CertificateSettings) (seconds : Int) : MintedCertificate where
  certificatePath := settings.certificatePath
  keyPath := settings.keyPath
  notBefore := seconds + settings.subject.validityStart.toInt
  notAfter := seconds + settings.subject.validityEnd.toInt

theorem minted_eq_expected {settings : CertificateSettings} {workshop : Workshop}
    {minted : MintedCertificate}
    (succeeded : (mintCertificate settings workshop).result = .ok minted) :
    minted = expected settings workshop.seconds := by
  unfold mintCertificate at succeeded
  rcases bind_ok_iff.1 succeeded with ⟨_, _, rest⟩
  rcases bind_ok_iff.1 rest with ⟨_, _, rest⟩
  rcases bind_ok_iff.1 rest with ⟨made, minting, rest⟩
  rcases bind_ok_iff.1 rest with ⟨_, _, rest⟩
  cases rest
  rcases Workshop.mint_ok_iff.1 minting with ⟨notBefore, notAfter, _, _, _, planned, _, rfl⟩
  have starts := (offsetFrom_ok_iff.1 planned.starts).1
  have ends := (offsetFrom_ok_iff.1 planned.ends).1
  unfold Workshop.seconds at starts ends
  rw [keeps_clock_ensureParent, keeps_clock_ensureParent] at starts ends
  rw [starts, ends]
  rfl

end Steps

namespace Schema

variable {State : Type} {connector : Connector State} {limit : Duration}

/-- A run that succeeds has counted all statements. -/
theorem report_of_applyFrom {index : Nat} {start report : Report} {statements : List Statement}
    {state : State}
    (succeeded : (applyFrom connector limit index start statements state).result = .ok report) :
    report.executed = start.executed + statements.length ∧
      report.appended = start.appended + appendCount statements := by
  induction statements generalizing index start state with
  | nil =>
      cases succeeded
      exact ⟨rfl, rfl⟩
  | cons statement rest ih =>
      cases failed : (connector.execute index statement.text state).failure? limit with
      | some failure =>
          rw [applyFrom_of_failure start rest failed] at succeeded
          cases succeeded
      | none =>
          rw [applyFrom_of_success start rest failed] at succeeded
          rcases ih succeeded with ⟨executed, appended⟩
          rw [executed, appended]
          unfold Report.count appendCount
          by_cases idempotent : statement.isIdempotent = true
          · simp [idempotent]
            omega
          · simp [idempotent]
            omega

theorem report_of_provision {credentials : Credentials} {statements : List Statement}
    {state : State} {report : Report}
    (succeeded : (provision connector credentials limit statements state).result = .ok report) :
    report = { executed := statements.length, appended := appendCount statements } := by
  by_cases hosts : credentials.hosts = []
  · rw [provision_of_noHosts hosts] at succeeded
    cases succeeded
  · cases connected : (connector.connect credentials state).refusal with
    | some reason =>
        rw [provision_of_refused hosts connected] at succeeded
        cases succeeded
    | none =>
        rw [provision_of_connected hosts connected rfl] at succeeded
        rcases report_of_applyFrom succeeded with ⟨executed, appended⟩
        rw [Nat.zero_add] at executed appended
        cases report
        rw [Report.mk.injEq]
        exact ⟨executed, appended⟩

end Schema

namespace Runner

variable {Cluster : Type} {runner : Runner Cluster}

variable (runner) in
/-- What a step answers when it succeeds. -/
def answer (seconds : Int) : Step → StepOutcome
  | .schema => .schema
      { executed := runner.statements.length
        appended := Schema.appendCount runner.statements }
  | .certificate => .certificate (Steps.expected runner.config.certificate seconds)

theorem schema_ok_iff {world : World Cluster} {outcome : StepOutcome} :
    (runner.outcome .schema world).result = .ok outcome ↔
      ∃ credentials report, runner.config.database.credentials = .ok credentials ∧
        (runner.provision credentials world.cluster).result = .ok report ∧
        outcome = .schema report := by
  cases usable : runner.config.database.credentials with
  | error fault =>
      rw [outcome_schema_of_unusable usable]
      simp
  | ok credentials =>
      rw [outcome_schema_of_usable usable]
      cases provisioned : (runner.provision credentials world.cluster).result with
      | error error => simp [provisioned]
      | ok report => simp [provisioned, eq_comm]

theorem certificate_ok_iff {world : World Cluster} {outcome : StepOutcome} :
    (runner.outcome .certificate world).result = .ok outcome ↔
      ∃ minted, (Steps.mintCertificate runner.config.certificate world.workshop).result =
          .ok minted ∧ outcome = .certificate minted := by
  rw [outcome_certificate]
  cases minted : (Steps.mintCertificate runner.config.certificate world.workshop).result with
  | error error => simp
  | ok certificate => simp [eq_comm]

theorem certificate_error_iff {world : World Cluster} {halt : Halt Error} :
    (runner.outcome .certificate world).result = .error halt ↔
      ∃ cause, (Steps.mintCertificate runner.config.certificate world.workshop).result =
          .error cause ∧ halt = cause.map .mint := by
  rw [outcome_certificate]
  cases minted : (Steps.mintCertificate runner.config.certificate world.workshop).result with
  | error cause => simp [eq_comm]
  | ok certificate => simp

theorem exists_schema_change (runner : Runner Cluster) :
    ∃ change : Cluster → Cluster, ∀ world,
      (runner.outcome .schema world).state = { world with cluster := change world.cluster } := by
  cases usable : runner.config.database.credentials with
  | error fault =>
      refine ⟨id, fun world => ?_⟩
      rw [outcome_schema_of_unusable usable]
      rfl
  | ok credentials =>
      refine ⟨fun cluster => (runner.provision credentials cluster).state, fun world => ?_⟩
      rw [outcome_schema_of_usable usable]

theorem exists_certificate_change (runner : Runner Cluster) :
    ∃ change : Workshop → Workshop, ∀ world,
      (runner.outcome .certificate world).state =
        { world with workshop := change world.workshop } := by
  refine ⟨fun workshop => (Steps.mintCertificate runner.config.certificate workshop).state,
    fun world => ?_⟩
  rw [outcome_certificate]

variable (runner) in
def Succeeds (step : Step) (world : World Cluster) : Prop :=
  ∃ outcome, (runner.outcome step world).result = .ok outcome

theorem succeeds_schema_iff {world other : World Cluster}
    (cluster : world.cluster = other.cluster) :
    runner.Succeeds .schema world ↔ runner.Succeeds .schema other := by
  unfold Succeeds
  simp only [schema_ok_iff, cluster]

theorem succeeds_certificate_iff {world other : World Cluster}
    (workshop : world.workshop = other.workshop) :
    runner.Succeeds .certificate world ↔ runner.Succeeds .certificate other := by
  unfold Succeeds
  simp only [certificate_ok_iff, workshop]

/-- Whether a step succeeds does not depend on a step of the other kind before it. -/
theorem succeeds_after {first second : Step} (different : first ≠ second)
    (world : World Cluster) :
    runner.Succeeds second (runner.outcome first world).state ↔ runner.Succeeds second world := by
  rcases exists_schema_change runner with ⟨onCluster, schemaState⟩
  rcases exists_certificate_change runner with ⟨inWorkshop, certificateState⟩
  cases first with
  | schema =>
      cases second with
      | schema => exact absurd rfl different
      | certificate =>
          apply succeeds_certificate_iff
          rw [schemaState]
  | certificate =>
      cases second with
      | schema =>
          apply succeeds_schema_iff
          rw [certificateState]
      | certificate => exact absurd rfl different

theorem states_commute (first second : Step) (world : World Cluster) :
    (runner.outcome second (runner.outcome first world).state).state =
      (runner.outcome first (runner.outcome second world).state).state := by
  rcases exists_schema_change runner with ⟨onCluster, schemaState⟩
  rcases exists_certificate_change runner with ⟨inWorkshop, certificateState⟩
  cases first with
  | schema =>
      cases second with
      | schema => rfl
      | certificate => simp only [schemaState, certificateState]
  | certificate =>
      cases second with
      | schema => simp only [schemaState, certificateState]
      | certificate => rfl

variable (runner) in
/-- Steps in a row succeed and leave a world. -/
def Reaches : World Cluster → List Step → World Cluster → Prop
  | world, [], after => after = world
  | world, step :: rest, after =>
      runner.Succeeds step world ∧ Reaches (runner.outcome step world).state rest after

theorem Reaches.swap {first second : Step} {rest : List Step} {world after : World Cluster}
    (reaches : runner.Reaches world (first :: second :: rest) after) :
    runner.Reaches world (second :: first :: rest) after := by
  by_cases same : first = second
  · rw [same] at reaches ⊢
    exact reaches
  · rcases reaches with ⟨firstly, secondly, later⟩
    rw [states_commute] at later
    exact ⟨(succeeds_after same world).1 secondly, (succeeds_after (Ne.symm same) world).2 firstly,
      later⟩

theorem Reaches.perm {first second : List Step} (same : first.Perm second)
    {world after : World Cluster} (reaches : runner.Reaches world first after) :
    runner.Reaches world second after := by
  induction same generalizing world with
  | nil => exact reaches
  | cons step rest ih => exact ⟨reaches.1, ih reaches.2⟩
  | swap step other rest => exact reaches.swap
  | trans before after ihBefore ihAfter => exact ihAfter (ihBefore reaches)

/-- Two worlds that differ only in what files hold and in where keys come from. -/
structure Alike (world other : World Cluster) : Prop where
  cluster : world.cluster = other.cluster
  workshop : world.workshop.Alike other.workshop

theorem Alike.symm {world other : World Cluster} (alike : Alike world other) : Alike other world :=
  ⟨alike.cluster.symm, alike.workshop.symm⟩

theorem succeeds_of_alike {step : Step} {world other : World Cluster} (alike : Alike world other)
    (succeeds : runner.Succeeds step world) :
    runner.Succeeds step other ∧
      Alike (runner.outcome step world).state (runner.outcome step other).state := by
  cases step with
  | schema =>
      rcases exists_schema_change runner with ⟨onCluster, schemaState⟩
      refine ⟨(succeeds_schema_iff alike.cluster).1 succeeds, ?_⟩
      rw [schemaState, schemaState, alike.cluster]
      exact ⟨rfl, alike.workshop⟩
  | certificate =>
      rcases succeeds with ⟨outcome, succeeded⟩
      rcases certificate_ok_iff.1 succeeded with ⟨minted, ran, rfl⟩
      rcases Steps.respects_mintCertificate _ _ _ _ alike.workshop ran with ⟨ran', workshops⟩
      refine ⟨⟨_, certificate_ok_iff.2 ⟨minted, ran', rfl⟩⟩, ?_⟩
      rw [outcome_certificate, outcome_certificate]
      exact ⟨alike.cluster, workshops⟩

theorem Reaches.of_alike {steps : List Step} {world other after : World Cluster}
    (alike : Alike world other) (reaches : runner.Reaches world steps after) :
    ∃ after', runner.Reaches other steps after' ∧ Alike after after' := by
  induction steps generalizing world other with
  | nil =>
      obtain rfl : after = world := reaches
      exact ⟨other, rfl, alike⟩
  | cons step rest ih =>
      rcases succeeds_of_alike alike reaches.1 with ⟨succeeds, alikeNext⟩
      rcases ih alikeNext reaches.2 with ⟨after', reaches', alikeAfter⟩
      exact ⟨after', ⟨succeeds, reaches'⟩, alikeAfter⟩

theorem eq_answer {step : Step} {world : World Cluster} {outcome : StepOutcome}
    (succeeded : (runner.outcome step world).result = .ok outcome) :
    outcome = runner.answer world.workshop.seconds step := by
  cases step with
  | schema =>
      rcases schema_ok_iff.1 succeeded with ⟨credentials, report, _, provisioned, rfl⟩
      rw [Schema.report_of_provision provisioned]
      rfl
  | certificate =>
      rcases certificate_ok_iff.1 succeeded with ⟨minted, ran, rfl⟩
      rw [Steps.minted_eq_expected ran]
      rfl

theorem seconds_outcome (step : Step) (world : World Cluster) :
    (runner.outcome step world).state.workshop.seconds = world.workshop.seconds := by
  cases step with
  | schema =>
      rcases exists_schema_change runner with ⟨change, state⟩
      rw [state]
  | certificate =>
      rw [outcome_certificate]
      unfold Workshop.seconds
      rw [Steps.keeps_clock_mintCertificate]

/-- Steps that succeed one after another answer what each of them has to. -/
theorem effect_ok_iff {steps : List Step} {world after : World Cluster}
    {outcomes : List StepOutcome} :
    runner.effect world steps = (.ok outcomes, after) ↔
      runner.Reaches world steps after ∧
        outcomes = steps.map (runner.answer world.workshop.seconds) := by
  induction steps generalizing world outcomes with
  | nil =>
      simp only [effect, Reaches, Prod.mk.injEq, Except.ok.injEq, List.map_nil]
      constructor
      · rintro ⟨rfl, rfl⟩
        exact ⟨rfl, rfl⟩
      · rintro ⟨rfl, rfl⟩
        exact ⟨rfl, rfl⟩
  | cons step rest ih =>
      cases first : (runner.outcome step world).result with
      | error error =>
          rw [effect_of_failure rest first]
          constructor
          · rintro ⟨⟩
          · rintro ⟨⟨⟨outcome, succeeded⟩, _⟩, _⟩
            rw [first] at succeeded
            cases succeeded
      | ok outcome =>
          have seconds : (runner.outcome step world).state.workshop.seconds =
              world.workshop.seconds := seconds_outcome step world
          rw [effect_of_success rest first, List.map_cons, ← eq_answer first, ← seconds]
          constructor
          · intro ran
            cases later : runner.effect (runner.outcome step world).state rest with
            | mk result reached =>
                rw [later] at ran
                cases result with
                | error error => cases ran
                | ok others =>
                    rw [map_ok, Prod.mk.injEq, Except.ok.injEq] at ran
                    rcases ran with ⟨rfl, rfl⟩
                    rcases ih.1 later with ⟨reaches, rfl⟩
                    exact ⟨⟨⟨outcome, first⟩, reaches⟩, rfl⟩
          · rintro ⟨⟨_, later⟩, rfl⟩
            rw [ih.2 ⟨later, rfl⟩, map_ok]

theorem run_ok_iff {steps : List Step} {world : World Cluster} {outcomes : List StepOutcome} :
    (runner.run steps world).result = .ok outcomes ↔
      runner.Reaches world steps (runner.run steps world).state ∧
        outcomes = steps.map (runner.answer world.workshop.seconds) := by
  rw [← effect_ok_iff, ← run_eq_effect, Prod.mk.injEq]
  simp only [and_true]

theorem exists_run_of_perm {first second : List Step} (same : first.Perm second)
    {world other : World Cluster} (alike : Alike world other) {outcomes : List StepOutcome}
    (succeeded : (runner.run first world).result = .ok outcomes) :
    ∃ others, (runner.run second other).result = .ok others ∧
      Alike (runner.run first world).state (runner.run second other).state := by
  rcases run_ok_iff.1 succeeded with ⟨reaches, _⟩
  rcases (reaches.perm same).of_alike alike with ⟨after, reaches', alikeAfter⟩
  have ran := effect_ok_iff.2 ⟨reaches', rfl⟩
  rw [← run_eq_effect, Prod.mk.injEq] at ran
  rw [ran.2]
  exact ⟨_, ran.1, alikeAfter⟩

/-- Two runs of the same steps in any two orders, with whatever keys: both succeed or neither does,
and if they do they leave the same cluster and trees of the same outline, and answer for each step the
same. -/
theorem runs_agree_in_any_order (runner : Runner Cluster) {first second : List Step}
    (same : first.Perm second) {world other : World Cluster} (alike : Alike world other) :
    ((∃ outcomes, (runner.run first world).result = .ok outcomes) ↔
      ∃ others, (runner.run second other).result = .ok others) ∧
    ∀ outcomes others, (runner.run first world).result = .ok outcomes →
      (runner.run second other).result = .ok others →
        (runner.run first world).state.cluster = (runner.run second other).state.cluster ∧
        (runner.run first world).state.workshop.disk.tree.SameOutline
          (runner.run second other).state.workshop.disk.tree ∧
        outcomes = first.map (runner.answer world.workshop.seconds) ∧
        others = second.map (runner.answer world.workshop.seconds) := by
  refine ⟨⟨?_, ?_⟩, ?_⟩
  · rintro ⟨outcomes, succeeded⟩
    rcases exists_run_of_perm same alike succeeded with ⟨others, succeeded', _⟩
    exact ⟨others, succeeded'⟩
  · rintro ⟨others, succeeded⟩
    rcases exists_run_of_perm same.symm alike.symm succeeded with ⟨outcomes, succeeded', _⟩
    exact ⟨outcomes, succeeded'⟩
  · intro outcomes others succeeded succeeded'
    rcases exists_run_of_perm same alike succeeded with ⟨_, _, alikeAfter⟩
    refine ⟨alikeAfter.cluster, alikeAfter.workshop.tree, (run_ok_iff.1 succeeded).2, ?_⟩
    rw [alike.workshop.seconds]
    exact (run_ok_iff.1 succeeded').2

/-- A runner whose certificate and key go to a directory that is not there yet. -/
def withNewDirectory : Runner (List String) where
  config :=
    { database := localDatabase
      certificate :=
        { keyBits := 2048, certificatePath := "keys/cert.pem", keyPath := "keys/key.pem" } }
  connector := .recording

def seededWorld (seed : List UInt8) : World (List String) where
  cluster := []
  workshop :=
    { disk := { tree := ⟨[([.text "work"], .directory)]⟩, workingDirectory := [.text "work"] }
      clock := 0
      keys := { seed } }

/-- Every certificate that can be made is put into the new directory. -/
theorem exists_minted_seededWorld {subject : Subject} {notBefore notAfter : Int}
    {name : DistinguishedName}
    (planned : KeyMaterial.Planned 2048 subject 0 notBefore notAfter name) :
    ∃ minted,
      (Steps.mintCertificate { withNewDirectory.config.certificate with subject }
        (seededWorld [1]).workshop).result = .ok minted := by
  have firstMade :
      (Steps.ensureParent "keys/cert.pem" (seededWorld [1]).workshop).result = .ok () := by
    decide +kernel
  have secondMade : (Steps.ensureParent "keys/key.pem"
      (Steps.ensureParent "keys/cert.pem" (seededWorld [1]).workshop).state).result = .ok () := by
    decide +kernel
  have placed : (Steps.ensureParent "keys/key.pem" (Steps.ensureParent "keys/cert.pem"
      (seededWorld [1]).workshop).state).state.progress "keys/cert.pem" "keys/key.pem" =
        .both [.text "work", .text "keys", .text "key.pem"]
          [.text "work", .text "keys", .text "cert.pem"] := by
    decide +kernel
  have minted := Workshop.mint_ok_iff.2 ⟨_, _, _, _, _, planned, placed, rfl⟩
  exact ⟨_, Action.bind_ok_iff.2 ⟨(), firstMade, Action.bind_ok_iff.2 ⟨(), secondMade,
    Action.bind_ok_iff.2 ⟨_, minted, rfl⟩⟩⟩⟩

theorem succeeds_certificate_seededWorld :
    withNewDirectory.Succeeds .certificate (seededWorld [1]) := by
  have planned : KeyMaterial.Planned 2048 {} 0 0 tenYears.toInt _ :=
    ⟨⟨rfl, rfl, rfl, rfl, rfl, rfl⟩, by constructor <;> decide +kernel⟩
  rcases exists_minted_seededWorld planned with ⟨minted, ran⟩
  exact ⟨_, certificate_ok_iff.2 ⟨minted, ran, rfl⟩⟩

theorem exists_run_seededWorld :
    ∃ outcomes,
      (withNewDirectory.run [.schema, .certificate] (seededWorld [1])).result = .ok outcomes := by
  have reported : ∃ report,
      (withNewDirectory.outcome .schema (seededWorld [1])).result = .ok (.schema report) :=
    exists_report_of_accepted credentials_localDatabase (accepted_of_recording _ _)
  have schema : withNewDirectory.Succeeds .schema (seededWorld [1]) := by
    rcases reported with ⟨report, succeeded⟩
    exact ⟨.schema report, succeeded⟩
  have certificate := (succeeds_after (by decide : Step.schema ≠ .certificate) _).2
    succeeds_certificate_seededWorld
  have reaches : withNewDirectory.Reaches (seededWorld [1]) [.schema, .certificate] _ :=
    ⟨schema, certificate, rfl⟩
  have ran := effect_ok_iff.2 ⟨reaches, rfl⟩
  rw [← run_eq_effect, Prod.mk.injEq] at ran
  exact ⟨_, ran.1⟩

theorem runs_agree_in_any_order_seeded :
    [Step.schema, .certificate].Perm [.certificate, .schema] ∧
      Alike (seededWorld [1]) (seededWorld [2]) ∧
      ∃ others,
        (withNewDirectory.run [.certificate, .schema] (seededWorld [2])).result = .ok others ∧
        (withNewDirectory.run [.schema, .certificate]
            (seededWorld [1])).state.workshop.disk.tree.SameOutline
          (withNewDirectory.run [.certificate, .schema]
            (seededWorld [2])).state.workshop.disk.tree := by
  have same : [Step.schema, .certificate].Perm [.certificate, .schema] := .swap _ _ _
  have alike : Alike (seededWorld [1]) (seededWorld [2]) := ⟨rfl, .refl _, rfl, rfl, rfl⟩
  have agree := runs_agree_in_any_order withNewDirectory same alike
  rcases exists_run_seededWorld with ⟨outcomes, succeeded⟩
  rcases agree.1.1 ⟨outcomes, succeeded⟩ with ⟨others, succeeded'⟩
  exact ⟨same, alike, others, succeeded', (agree.2 outcomes others succeeded succeeded').2.1⟩

end Runner

end MailProvision
