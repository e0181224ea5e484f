import MailProvision.Certificate.Minting
import MailProvision.Schema.Provisioning

/-!
# Provisioning steps

A run consists of steps, each of which works either on the cluster or on the disk. They are done in
order; the first that fails ends the run.
-/

namespace MailProvision

/-- One part of a run. -/
inductive Step where
  /-- The keyspace, its tables and the seed. -/
  | schema
  /-- The self-signed certificate and its key. -/
  | certificate
deriving DecidableEq, Repr

namespace Step

/-- The name of a step. -/
def name : Step → String
  | schema => "schema"
  | certificate => "certificate"

/-- The name of a step as a list of steps shows it. -/
def title : Step → String
  | schema => "Schema"
  | certificate => "Certificate"

/-- The titles of steps in brackets. -/
def describeAll (steps : List Step) : String :=
  "[" ++ ", ".intercalate (steps.map title) ++ "]"

end Step

/-- Which steps are asked for. -/
inductive Selection where
  | all
  | schema
  | certificate
deriving DecidableEq, Repr

namespace Selection

/-- The steps of a selection in order. -/
def steps : Selection → List Step
  | all => [.schema, .certificate]
  | schema => [.schema]
  | certificate => [.certificate]

end Selection

/-- What a step produced. -/
inductive StepOutcome where
  | schema (report : Schema.Report)
  | certificate (minted : MintedCertificate)
deriving DecidableEq, Repr

/-- What a run works on: a cluster, and all that minting works with. -/
structure World (Cluster : Type) where
  cluster : Cluster
  workshop : Workshop

namespace Steps

variable {Cluster : Type}

/-- Work on the cluster. -/
def onCluster {Value : Type} (action : Action Cluster ProvisionError Value) :
    Action (World Cluster) (Halt Error) Value :=
  (action.within World.cluster fun cluster world => { world with cluster }).mapFailure
    fun error => .failure (.provision error)

/-- Work in the workshop. -/
def inWorkshop {Value : Type} (action : Action Workshop (Halt MintError) Value) :
    Action (World Cluster) (Halt Error) Value :=
  (action.within World.workshop fun workshop world => { world with workshop }).mapFailure
    (Halt.map .mint)

/-- Applies the schema of a configuration to its cluster. -/
def provisionSchema (config : Config) (connector : Connector Cluster) :
    Action (World Cluster) (Halt Error) Schema.Report := do
  let credentials ← Action.ofExcept
    (config.database.credentials.mapError fun fault => .failure (.config fault))
  onCluster <| Schema.provision connector credentials config.database.statementTimeout
    (Schema.statements config.schema.options)

/-- Creates the directory in which a path ends, with all that is missing above it. -/
def ensureParent (path : String) : Action Workshop (Halt MintError) Unit :=
  match Path.parent? path with
  | none => Action.done ()
  | some parent =>
      if parent.isEmpty then Action.done ()
      else
        Workshop.onDisk <| (Disk.makeDirectories parent).mapFailure fun cause =>
          { path := parent, cause }

/-- Mints the certificate of a configuration. -/
def mintCertificate (settings : CertificateSettings) :
    Action Workshop (Halt MintError) MintedCertificate := do
  ensureParent settings.certificatePath
  ensureParent settings.keyPath
  let minted ←
    mint settings.keyBits.toNat settings.subject settings.certificatePath settings.keyPath
  Action.report
    (.certificateMinted (CalendarTime.describe minted.notBefore)
      (CalendarTime.describe minted.notAfter))
  return minted

/-- Does one step. -/
def perform (config : Config) (connector : Connector Cluster) :
    Step → Action (World Cluster) (Halt Error) StepOutcome
  | .schema => return .schema (← provisionSchema config connector)
  | .certificate => return .certificate (← inWorkshop (mintCertificate config.certificate))

/-- Does one step with reports before and after it. Nobody is left to report a panic. -/
def attempt (config : Config) (connector : Connector Cluster) (position total : Nat)
    (step : Step) : Action (World Cluster) (Halt Error) StepOutcome := do
  Action.report (.startingStep step.name position total)
  let outcome ← (perform config connector step).onFailureReport fun halt =>
    halt.failure?.map fun error => .stepFailed step.name error.code error.message
  Action.report (.stepCompleted step.name)
  return outcome

/-- Does steps, counted from `position`, until one fails. -/
def runFrom (config : Config) (connector : Connector Cluster) (total : Nat) :
    Nat → List Step → Action (World Cluster) (Halt Error) (List StepOutcome)
  | _, [] => Action.done []
  | position, step :: rest => do
      let outcome ← attempt config connector position total step
      let outcomes ← runFrom config connector total (position + 1) rest
      return outcome :: outcomes

/-- Does steps in order until one fails. -/
def run (config : Config) (connector : Connector Cluster) (steps : List Step) :
    Action (World Cluster) (Halt Error) (List StepOutcome) :=
  runFrom config connector steps.length 0 steps

end Steps

end MailProvision
