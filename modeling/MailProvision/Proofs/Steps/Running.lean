import MailProvision.Proofs.Steps.Outcomes

/-!
# Running steps one after another

A run does its steps in order and ends at the first one that fails or panics. What each step comes
to is said here without the run: a step finds the world that the steps before it left
(`resultAt?`). The trace of a run consists of what each step leaves by itself, with a report before
it and a report after it.
-/

namespace MailProvision

namespace StepOutcome

def step : StepOutcome → Step
  | schema _ => .schema
  | certificate _ => .certificate

end StepOutcome

namespace Runner

variable {Cluster : Type} (runner : Runner Cluster)

/-- What a run comes to in a world. -/
def run (steps : List Step) (world : World Cluster) :
    Outcome (World Cluster) (Halt Error) (List StepOutcome) :=
  Steps.run runner.config runner.connector steps world

/-- The world after steps, each of them done whatever came of those before it. -/
def worldAfter : World Cluster → List Step → World Cluster
  | world, [] => world
  | world, step :: rest => worldAfter (runner.outcome step world).state rest

/-- What the step at a position comes to after those before it. -/
def resultAt? (world : World Cluster) (steps : List Step) (position : Nat) :
    Option (Except (Halt Error) StepOutcome) :=
  steps[position]?.map fun step =>
    (runner.outcome step (runner.worldAfter world (steps.take position))).result

/-- What steps in a row answer and the world that they leave, up to the first that fails. -/
def effect : World Cluster → List Step → Except (Halt Error) (List StepOutcome) × World Cluster
  | world, [] => (.ok [], world)
  | world, step :: rest =>
      let first := runner.outcome step world
      match first.result with
      | .error halt => (.error halt, first.state)
      | .ok outcome =>
          let later := effect first.state rest
          (later.1.map (outcome :: ·), later.2)

/-- The report before a step. -/
def begun (step : Step) (position total : Nat) : Activity :=
  .event (.startingStep step.name position total)

/-- What a step that completes leaves in the trace of a run. -/
def recordsOf (total position : Nat) (world : World Cluster) (step : Step) : List Activity :=
  begun step position total ::
    ((runner.outcome step world).trace ++ [.event (.stepCompleted step.name)])

/-- What steps that complete leave, the first of them at the given position. -/
def recordsFrom (total : Nat) : Nat → World Cluster → List Step → List Activity
  | _, _, [] => []
  | position, world, step :: rest =>
      runner.recordsOf total position world step ++
        recordsFrom total (position + 1) (runner.outcome step world).state rest

/-- The report after a step that fails; after a panic there is none. -/
def broken (step : Step) : Halt Error → List Activity
  | .failure error => [.event (.stepFailed step.name error.code error.message)]
  | .panic => []

/-- What a step that does not complete leaves in the trace of a run. -/
def failureRecords (total position : Nat) (world : World Cluster) (step : Step)
    (halt : Halt Error) : List Activity :=
  begun step position total :: ((runner.outcome step world).trace ++ broken step halt)

/-- The run ends as the step at a position does, which is the last one done. -/
structure HaltsAt (world : World Cluster) (steps : List Step) (position : Nat) (halt : Halt Error)
    (outcome : Outcome (World Cluster) (Halt Error) (List StepOutcome)) : Prop where
  result : outcome.result = .error halt
  state : outcome.state = runner.worldAfter world (steps.take (position + 1))
  trace : ∃ step, steps[position]? = some step ∧
    outcome.trace =
      runner.recordsFrom steps.length 0 world (steps.take position) ++
        runner.failureRecords steps.length position
          (runner.worldAfter world (steps.take position)) step halt

/-- The run does all steps and answers what each of them comes to. -/
structure Finishes (world : World Cluster) (steps : List Step)
    (outcome : Outcome (World Cluster) (Halt Error) (List StepOutcome)) : Prop where
  result : ∃ outcomes, outcome.result = .ok outcomes ∧ outcomes.map StepOutcome.step = steps ∧
    ∀ position, runner.resultAt? world steps position = outcomes[position]?.map .ok
  state : outcome.state = runner.worldAfter world steps
  trace : outcome.trace = runner.recordsFrom steps.length 0 world steps

/-- The run of further steps begins where the run of the first ones ends, unless that one failed. -/
structure Continues (world : World Cluster) (steps more : List Step) : Prop where
  failed : ∀ halt, (runner.run steps world).result = .error halt →
    (runner.run (steps ++ more) world).result = .error halt ∧
      (runner.run (steps ++ more) world).state = (runner.run steps world).state
  succeeded : ∀ outcomes, (runner.run steps world).result = .ok outcomes →
    (runner.run (steps ++ more) world).result =
        (runner.run more (runner.run steps world).state).result.map (outcomes ++ ·) ∧
      (runner.run (steps ++ more) world).state =
        (runner.run more (runner.run steps world).state).state

variable {runner}

theorem step_of_outcome {step : Step} {world : World Cluster} {outcome : StepOutcome}
    (succeeded : (runner.outcome step world).result = .ok outcome) : outcome.step = step := by
  cases step with
  | certificate =>
      rw [outcome_certificate] at succeeded
      cases minted :
          (Steps.mintCertificate runner.config.certificate world.workshop).result with
      | error halt =>
          rw [minted] at succeeded
          cases succeeded
      | ok certificate =>
          rw [minted] at succeeded
          cases succeeded
          rfl
  | schema =>
      cases usable : runner.config.database.credentials with
      | error fault =>
          rw [outcome_schema_of_unusable usable] at succeeded
          cases succeeded
      | ok credentials =>
          rw [outcome_schema_of_usable usable] at succeeded
          cases provisioned : (runner.provision credentials world.cluster).result with
          | error halt =>
              rw [provisioned] at succeeded
              cases succeeded
          | ok report =>
              rw [provisioned] at succeeded
              cases succeeded
              rfl

theorem resultAt?_zero (world : World Cluster) (step : Step) (rest : List Step) :
    runner.resultAt? world (step :: rest) 0 = some (runner.outcome step world).result :=
  rfl

theorem resultAt?_succ (world : World Cluster) (step : Step) (rest : List Step) (position : Nat) :
    runner.resultAt? world (step :: rest) (position + 1) =
      runner.resultAt? (runner.outcome step world).state rest position :=
  rfl

section Step

variable (total position : Nat) {step : Step} {world : World Cluster}

theorem attempt_of_failure {halt : Halt Error}
    (failed : (runner.outcome step world).result = .error halt) :
    Steps.attempt runner.config runner.connector position total step world =
      { result := .error halt
        state := (runner.outcome step world).state
        trace := runner.failureRecords total position world step halt } := by
  have ran : Steps.perform runner.config runner.connector step world =
      { result := .error halt
        state := (runner.outcome step world).state
        trace := (runner.outcome step world).trace } := by
    rw [← failed]
    rfl
  rw [Steps.attempt, Action.bind_of_ok (Action.report_run _ world),
    Action.bind_of_error (Action.onFailureReport_of_error _ ran)]
  cases halt with
  | failure error => rfl
  | panic => rfl

theorem attempt_of_success {outcome : StepOutcome}
    (succeeded : (runner.outcome step world).result = .ok outcome) :
    Steps.attempt runner.config runner.connector position total step world =
      { result := .ok outcome
        state := (runner.outcome step world).state
        trace := runner.recordsOf total position world step } := by
  have ran : Steps.perform runner.config runner.connector step world =
      { result := .ok outcome
        state := (runner.outcome step world).state
        trace := (runner.outcome step world).trace } := by
    rw [← succeeded]
    rfl
  rw [Steps.attempt, Action.bind_of_ok (Action.report_run _ world),
    Action.bind_of_ok (Action.onFailureReport_of_ok _ ran)]
  rfl

variable (rest : List Step)

theorem effect_of_failure {halt : Halt Error}
    (failed : (runner.outcome step world).result = .error halt) :
    runner.effect world (step :: rest) = (.error halt, (runner.outcome step world).state) := by
  simp only [effect, failed]

theorem effect_of_success {outcome : StepOutcome}
    (succeeded : (runner.outcome step world).result = .ok outcome) :
    runner.effect world (step :: rest) =
      ((runner.effect (runner.outcome step world).state rest).1.map (outcome :: ·),
        (runner.effect (runner.outcome step world).state rest).2) := by
  simp only [effect, succeeded]

theorem runFrom_of_failure {halt : Halt Error}
    (failed : (runner.outcome step world).result = .error halt) :
    Steps.runFrom runner.config runner.connector total position (step :: rest) world =
      { result := .error halt
        state := (runner.outcome step world).state
        trace := runner.failureRecords total position world step halt } := by
  rw [Steps.runFrom, Action.bind_of_error (attempt_of_failure total position failed)]

theorem runFrom_of_success {outcome : StepOutcome}
    (succeeded : (runner.outcome step world).result = .ok outcome) :
    Steps.runFrom runner.config runner.connector total position (step :: rest) world =
      let later := Steps.runFrom runner.config runner.connector total (position + 1) rest
        (runner.outcome step world).state
      { result := later.result.map (outcome :: ·)
        state := later.state
        trace := runner.recordsOf total position world step ++ later.trace } := by
  rw [Steps.runFrom, Action.bind_of_ok (attempt_of_success total position succeeded),
    Action.bind_pure_run]

end Step

/-- What a run answers and leaves depends neither on the positions nor on the total. -/
theorem runFrom_eq_effect (total start : Nat) (world : World Cluster) (steps : List Step) :
    (Steps.runFrom runner.config runner.connector total start steps world).result =
        (runner.effect world steps).1 ∧
      (Steps.runFrom runner.config runner.connector total start steps world).state =
        (runner.effect world steps).2 := by
  induction steps generalizing world start with
  | nil => exact ⟨rfl, rfl⟩
  | cons step rest ih =>
      rcases ih (start + 1) (runner.outcome step world).state with ⟨results, states⟩
      cases first : (runner.outcome step world).result with
      | error halt =>
          rw [runFrom_of_failure total start rest first, effect_of_failure rest first]
          exact ⟨rfl, rfl⟩
      | ok outcome =>
          rw [runFrom_of_success total start rest first, effect_of_success rest first, ← results,
            ← states]
          exact ⟨rfl, rfl⟩

section Run

variable {world : World Cluster} {steps : List Step}

/-- Up to the first step that fails. -/
theorem runFrom_halts (total : Nat) {start position : Nat} {halt : Halt Error}
    (before : ∀ earlier < position, ∃ outcome,
      runner.resultAt? world steps earlier = some (.ok outcome))
    (failed : runner.resultAt? world steps position = some (.error halt)) :
    ∃ step, steps[position]? = some step ∧
      Steps.runFrom runner.config runner.connector total start steps world =
        { result := .error halt
          state := runner.worldAfter world (steps.take (position + 1))
          trace := runner.recordsFrom total start world (steps.take position) ++
            runner.failureRecords total (start + position)
              (runner.worldAfter world (steps.take position)) step halt } := by
  induction steps generalizing world start position with
  | nil => cases failed
  | cons step rest ih =>
      cases position with
      | zero =>
          rw [resultAt?_zero] at failed
          refine ⟨step, rfl, ?_⟩
          rw [runFrom_of_failure total start rest (Option.some.inj failed)]
          rfl
      | succ position =>
          rcases before 0 (Nat.succ_pos position) with ⟨outcome, succeeded⟩
          rw [resultAt?_zero] at succeeded
          rw [resultAt?_succ] at failed
          have later : ∀ earlier < position, ∃ outcome,
              runner.resultAt? (runner.outcome step world).state rest earlier =
                some (.ok outcome) := by
            intro earlier bound
            rw [← resultAt?_succ]
            exact before (earlier + 1) (Nat.succ_lt_succ bound)
          rcases @ih _ (start + 1) _ later failed with ⟨failing, found, ran⟩
          have number : start + 1 + position = start + (position + 1) := by omega
          refine ⟨failing, found, ?_⟩
          rw [runFrom_of_success total start rest (Option.some.inj succeeded), ran, number]
          simp only [map_error, List.take_succ_cons, recordsFrom, worldAfter, List.append_assoc]

/-- To the end, if no step fails. -/
theorem runFrom_finishes (total start : Nat)
    (succeeded : ∀ position halt, runner.resultAt? world steps position ≠ some (.error halt)) :
    ∃ outcomes, outcomes.map StepOutcome.step = steps ∧
      (∀ position, runner.resultAt? world steps position = outcomes[position]?.map .ok) ∧
      Steps.runFrom runner.config runner.connector total start steps world =
        { result := .ok outcomes
          state := runner.worldAfter world steps
          trace := runner.recordsFrom total start world steps } := by
  induction steps generalizing world start with
  | nil =>
      refine ⟨[], rfl, ?_, rfl⟩
      intro position
      simp [resultAt?]
  | cons step rest ih =>
      cases first : (runner.outcome step world).result with
      | error halt =>
          have fails := succeeded 0 halt
          rw [resultAt?_zero, first] at fails
          exact absurd rfl fails
      | ok outcome =>
          have later (position : Nat) (halt : Halt Error) :
              runner.resultAt? (runner.outcome step world).state rest position ≠
                some (.error halt) := by
            rw [← resultAt?_succ]
            exact succeeded (position + 1) halt
          rcases ih (start + 1) later with ⟨outcomes, kinds, each, ran⟩
          refine ⟨outcome :: outcomes, ?_, ?_, ?_⟩
          · rw [List.map_cons, kinds, step_of_outcome first]
          · intro position
            cases position with
            | zero => rw [resultAt?_zero, first, List.getElem?_cons_zero, Option.map_some]
            | succ position => rw [resultAt?_succ, each, List.getElem?_cons_succ]
          · rw [runFrom_of_success total start rest first, ran]
            rfl

theorem effect_append_of_failure {halt : Halt Error} {after : World Cluster} (more : List Step)
    (failed : runner.effect world steps = (.error halt, after)) :
    runner.effect world (steps ++ more) = (.error halt, after) := by
  induction steps generalizing world with
  | nil => cases failed
  | cons step rest ih =>
      cases first : (runner.outcome step world).result with
      | error other =>
          rw [effect_of_failure rest first] at failed
          rw [List.cons_append, effect_of_failure _ first, failed]
      | ok outcome =>
          rw [effect_of_success rest first] at failed
          rw [List.cons_append, effect_of_success _ first]
          cases later : runner.effect (runner.outcome step world).state rest with
          | mk result reached =>
              rw [later] at failed
              cases result with
              | error other =>
                  rw [map_error] at failed
                  rw [ih (later.trans failed), map_error]
              | ok outcomes =>
                  rw [map_ok] at failed
                  cases failed

theorem effect_append_of_success {outcomes : List StepOutcome} {after : World Cluster}
    (more : List Step) (succeeded : runner.effect world steps = (.ok outcomes, after)) :
    runner.effect world (steps ++ more) =
      ((runner.effect after more).1.map (outcomes ++ ·), (runner.effect after more).2) := by
  induction steps generalizing world outcomes with
  | nil =>
      cases succeeded
      cases ran : runner.effect after more with
      | mk result reached =>
          rw [List.nil_append, ran]
          cases result with
          | error halt => rfl
          | ok rest => rfl
  | cons step rest ih =>
      cases first : (runner.outcome step world).result with
      | error other =>
          rw [effect_of_failure rest first] at succeeded
          cases succeeded
      | ok outcome =>
          rw [effect_of_success rest first] at succeeded
          rw [List.cons_append, effect_of_success _ first]
          cases later : runner.effect (runner.outcome step world).state rest with
          | mk result reached =>
              rw [later] at succeeded
              cases result with
              | error other => cases succeeded
              | ok others =>
                  rw [map_ok, Prod.mk.injEq] at succeeded
                  rcases succeeded with ⟨whole, rfl⟩
                  cases whole
                  rw [ih later]
                  cases (runner.effect reached more).1 with
                  | error halt => rfl
                  | ok rest => rfl

end Run

variable (runner) in
theorem run_eq_effect (world : World Cluster) (steps : List Step) :
    ((runner.run steps world).result, (runner.run steps world).state) =
      runner.effect world steps := by
  rcases runFrom_eq_effect steps.length 0 world steps with ⟨results, states⟩
  exact Prod.ext results states

theorem continues_run (world : World Cluster) (steps more : List Step) :
    runner.Continues world steps more := by
  have whole := runner.run_eq_effect world (steps ++ more)
  have front := runner.run_eq_effect world steps
  have back := runner.run_eq_effect (runner.run steps world).state more
  constructor
  · intro halt failed
    rw [failed] at front
    rw [effect_append_of_failure more front.symm, Prod.mk.injEq] at whole
    exact whole
  · intro outcomes succeeded
    rw [succeeded] at front
    rw [effect_append_of_success more front.symm, ← back, Prod.mk.injEq] at whole
    exact whole

/-- A panic comes of a certificate for which nothing is refused, but one of whose moments cannot be
written. -/
def Unwritable (settings : CertificateSettings) (seconds : Int) : Prop :=
  ∃ notBefore notAfter name,
    KeyMaterial.Drafted settings.keyBits.toNat settings.subject seconds notBefore notAfter name ∧
      ¬CertificateTime.Writable notBefore notAfter

theorem unwritable_of_panic {step : Step} {world : World Cluster}
    (panicked : (runner.outcome step world).result = .error .panic) :
    step = .certificate ∧ Unwritable runner.config.certificate world.workshop.seconds := by
  rcases certificate_of_panic panicked with ⟨rfl, minted⟩
  exact ⟨rfl, Steps.drafted_of_panic minted⟩

variable (runner) in
/-- A run ends with the first step that fails and reports its error last of all; if none fails it
answers what each step comes to. It ends there too, and without a report, if that step panics, which
only the certificate step can do. A step leaves no session behind, and a run of more steps goes on
where the run of the first ones ended. -/
theorem run_stops_at_first_failure (world : World Cluster) (steps : List Step) :
    (∀ position halt,
      (∀ earlier < position, ∃ outcome,
        runner.resultAt? world steps earlier = some (.ok outcome)) →
      runner.resultAt? world steps position = some (.error halt) →
      runner.HaltsAt world steps position halt (runner.run steps world)) ∧
    ((∀ position halt, runner.resultAt? world steps position ≠ some (.error halt)) →
      runner.Finishes world steps (runner.run steps world)) ∧
    (∀ step reached, runner.OwnRecords reached step (runner.outcome step reached).trace) ∧
    (∀ more, runner.Continues world steps more) ∧
    ∀ step reached, (runner.outcome step reached).result = .error .panic →
      step = .certificate ∧
        Unwritable runner.config.certificate reached.workshop.seconds := by
  refine ⟨?_, ?_, ownRecords_outcome, continues_run world steps,
    fun _ _ => unwritable_of_panic⟩
  · intro position halt before failed
    rcases runFrom_halts steps.length before failed with ⟨step, found, ran⟩
    rw [Nat.zero_add] at ran
    rw [run, Steps.run, ran]
    exact ⟨rfl, rfl, step, found, rfl⟩
  · intro succeeded
    rcases runFrom_finishes steps.length 0 succeeded with ⟨outcomes, kinds, each, ran⟩
    rw [run, Steps.run, ran]
    exact ⟨⟨outcomes, rfl, kinds, each⟩, rfl, rfl⟩

def localDatabase : DatabaseSettings := { hosts := "a", port := 9042 }

theorem credentials_localDatabase :
    localDatabase.credentials =
      .ok { hosts := ["a"], port := 9042, username := none, password := none } := by
  have hosts : Credentials.parseHosts "a" = ["a"] := by decide +kernel
  simp only [localDatabase, DatabaseSettings.credentials, hosts]
  rfl

/-- A runner that refuses to make a key. -/
def withSmallKey : Runner (List String) where
  config :=
    { database := localDatabase
      certificate := { keyBits := 1024, certificatePath := "cert.pem", keyPath := "key.pem" } }
  connector := .recording

def unused : World (List String) where
  cluster := []
  workshop :=
    { disk := { tree := .empty, workingDirectory := [] }, clock := 0, keys := { seed := [] } }

theorem exists_outcome_withSmallKey (steps : List Step) :
    ∃ outcome, withSmallKey.resultAt? unused (.schema :: steps) 0 = some (.ok outcome) := by
  have succeeds : ∃ report, (withSmallKey.outcome .schema unused).result = .ok (.schema report) :=
    exists_report_of_accepted credentials_localDatabase (accepted_of_recording _ _)
  rcases succeeds with ⟨report, succeeded⟩
  exact ⟨.schema report, congrArg some succeeded⟩

theorem resultAt?_withSmallKey (steps : List Step) :
    withSmallKey.resultAt? unused (.schema :: .certificate :: steps) 1 =
      some (.error (.failure (.mint (.keyGeneration (.sizeOutside 1024 2048 8192))))) := by
  rw [resultAt?_succ, resultAt?_zero, outcome_certificate,
    @outcome_schema_of_usable _ withSmallKey _ credentials_localDatabase]
  decide +kernel

theorem run_stops_at_first_failure_smallKey :
    withSmallKey.HaltsAt unused [.schema, .certificate, .schema] 1
        (.failure (.mint (.keyGeneration (.sizeOutside 1024 2048 8192))))
        (withSmallKey.run [.schema, .certificate, .schema] unused) ∧
      withSmallKey.Finishes unused [.schema] (withSmallKey.run [.schema] unused) := by
  constructor
  · apply (run_stops_at_first_failure withSmallKey unused _).1 1 _ _ (resultAt?_withSmallKey _)
    intro earlier bound
    rw [Nat.lt_one_iff.mp bound]
    exact exists_outcome_withSmallKey _
  · apply (run_stops_at_first_failure withSmallKey unused _).2.1
    intro position halt failed
    cases position with
    | zero =>
        rcases exists_outcome_withSmallKey [] with ⟨outcome, succeeded⟩
        rw [succeeded] at failed
        cases failed
    | succ position => cases failed

/-- A runner whose certificate would hold before year 0. -/
def withAncientSubject : Runner (List String) where
  config :=
    { database := localDatabase
      certificate :=
        { subject := { validityStart := -70000000000, validityEnd := -69999999999 }
          keyBits := 2048
          certificatePath := "cert.pem"
          keyPath := "key.pem" } }
  connector := .recording

theorem run_panics_before_year_zero :
    withAncientSubject.resultAt? unused [.certificate] 0 = some (.error .panic) ∧
      (withAncientSubject.run [.certificate] unused).result = .error .panic ∧
      (withAncientSubject.run [.certificate] unused).trace =
        [begun .certificate 0 1, .event (.generatingKey 2048)] := by
  decide +kernel

end Runner

end MailProvision
