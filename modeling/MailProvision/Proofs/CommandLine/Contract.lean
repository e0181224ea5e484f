import MailProvision.CommandLine.Run
import MailProvision.Proofs.CommandLine.Calls
import MailProvision.Proofs.Config.Loading
import MailProvision.Proofs.Steps.Order

/-!
# The contract of the command

What a call does to the cluster and to the disk, what it prints and how it ends, seen from the
configuration and from the steps that it asks for. Printing the script touches nothing. Every other
call does what the run of its steps does, or nothing if there is no configuration.
-/

namespace MailProvision

namespace Runner

variable {Cluster : Type}

/-- A failed step on the cluster ends a run of all steps before anything is done to the disk. -/
theorem workshop_run_all {runner : Runner Cluster} {world : World Cluster} {halt : Halt Error}
    (failed : (runner.outcome .schema world).result = .error halt) :
    (runner.run Selection.all.steps world).state.workshop = world.workshop := by
  have ran := runner.run_eq_effect world Selection.all.steps
  rw [Selection.steps, effect_of_failure _ failed, Prod.mk.injEq] at ran
  rcases exists_schema_change runner with ⟨change, state⟩
  rw [Selection.steps, ran.2, state]

end Runner

namespace Command

variable {Cluster : Type}

theorem conclude_run (outcomes : List StepOutcome) (world : World Cluster) :
    (conclude outcomes world).result = .ok () ∧ (conclude outcomes world).state = world := by
  induction outcomes with
  | nil => exact ⟨rfl, rfl⟩
  | cons outcome rest ih =>
      rw [conclude, Action.bind_of_ok (Action.report_run _ world)]
      exact ih

/-- The reports around a run neither fail nor change anything. -/
theorem provision_run (config : Config) (connector : Connector Cluster) (selection : Selection)
    (world : World Cluster) :
    (provision config connector selection world).result =
        (Runner.run { config, connector } selection.steps world).result.map (fun _ => ()) ∧
      (provision config connector selection world).state =
        (Runner.run { config, connector } selection.steps world).state := by
  rw [provision, Action.bind_of_ok (Action.report_run _ world)]
  cases ran : Steps.run config connector selection.steps world with
  | mk result after trace =>
      have runs : Runner.run { config, connector } selection.steps world =
          { result, state := after, trace } := ran
      rw [runs]
      cases result with
      | error halt =>
          rw [Action.bind_of_error ran]
          exact ⟨rfl, rfl⟩
      | ok outcomes =>
          rw [Action.bind_of_ok ran]
          exact conclude_run outcomes after

section Contract

variable (library : Settings.Library) (connector : Connector Cluster)
  (environment : List (String × String)) (world : World Cluster)

/-- The options of the script that a call prints. -/
def optionsFor (configPath : Option String) : Except ConfigFault Schema.Options :=
  let disk := world.workshop.disk
  Config.schemaOptions library disk.tree disk.workingDirectory environment
    (Config.locate disk.tree disk.workingDirectory configPath)

/-- The configuration of a call. -/
def configFor (configPath : Option String) : Except ConfigFault Config :=
  let disk := world.workshop.disk
  Config.load library disk.tree disk.workingDirectory environment configPath

/-- What it takes for a request to end well. -/
def Succeeds : Request → Prop
  | .help _ | .version => True
  | .script configPath => ∃ options, optionsFor library environment world configPath = .ok options
  | .provision selection configPath =>
      ∃ config after, configFor library environment world configPath = .ok config ∧
        Runner.Reaches { config, connector } world selection.steps after

/-- Every other call does what its steps do, and nothing without a configuration. -/
structure Provisions (selection : Selection) (configPath : Option String) : Prop where
  unloaded : ∀ fault, configFor library environment world configPath = .error fault →
    (run library connector environment (.provision selection configPath) world).2 = world
  effects : ∀ config, configFor library environment world configPath = .ok config →
    (run library connector environment (.provision selection configPath) world).2 =
      (Steps.run config connector selection.steps world).state
  spares : selection = .all →
    ∀ config, configFor library environment world configPath = .ok config →
    ∀ halt, (Steps.perform config connector .schema world).result = .error halt →
      (run library connector environment (.provision selection configPath) world).2.workshop =
        world.workshop

variable {library connector environment world}

theorem run_provision_of_error {selection : Selection} {configPath : Option String}
    {fault : ConfigFault}
    (unloaded : configFor library environment world configPath = .error fault) :
    run library connector environment (.provision selection configPath) world =
      (.ofError (.config fault), world) := by
  have loads : Config.load library world.workshop.disk.tree world.workshop.disk.workingDirectory
      environment configPath = .error fault := unloaded
  simp only [run, loads]

theorem run_provision_of_ok {selection : Selection} {configPath : Option String} {config : Config}
    (loaded : configFor library environment world configPath = .ok config) :
    run library connector environment (.provision selection configPath) world =
      (reportOn environment config.logging (provision config connector selection world),
        (provision config connector selection world).state) := by
  have loads : Config.load library world.workshop.disk.tree world.workshop.disk.workingDirectory
      environment configPath = .ok config := loaded
  simp only [run, loads]

section Loaded

variable {selection : Selection} {configPath : Option String} {config : Config}
  (loaded : configFor library environment world configPath = .ok config)
include loaded

end Loaded

/-- How the exit code tells the ways in which a request can end apart. -/
inductive Tells (succeeds panics : Prop) : Nat → Prop
  | success (succeeded : succeeds) (quiet : ¬panics) : Tells succeeds panics 0
  | failure (failed : ¬succeeds) (quiet : ¬panics) : Tells succeeds panics 1
  | panic (failed : ¬succeeds) (panicked : panics) : Tells succeeds panics 101

theorem Tells.codes {succeeds panics : Prop} {code : Nat} (tells : Tells succeeds panics code) :
    (code = 0 ↔ succeeds) ∧ (code = 101 ↔ panics) ∧
      (¬succeeds → ¬panics → code = 1) := by
  cases tells with
  | success succeeded quiet => simp [succeeded, quiet]
  | failure failed quiet => simp [failed, quiet]
  | panic failed panicked => simp [failed, panicked]

theorem provisions (selection : Selection) (configPath : Option String) :
    Provisions library connector environment world selection configPath where
  unloaded := by
    intro fault unloaded
    rw [run_provision_of_error unloaded]
  effects := by
    intro config loaded
    rw [run_provision_of_ok loaded]
    exact (provision_run config connector selection world).2
  spares := by
    rintro rfl config loaded halt failed
    rw [run_provision_of_ok loaded]
    have state := (provision_run config connector .all world).2
    exact (congrArg World.workshop state).trans (Runner.workshop_run_all failed)

end Contract

end Command

end MailProvision
