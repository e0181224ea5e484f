import MailProvision.Proofs.Cluster.Memory

/-!
# Histories of runs on one cluster

Runs follow one another on a cluster in memory, each with its own credentials, statements, limit and
mishaps. A run that opens no session leaves the cluster alone (`outcome_of_unopened`); any other run
halts at its first failing call or goes to its end (`outcome_of_opens`).
-/

namespace MailProvision

/-- The circumstances of a run on a cluster in memory. -/
structure Circumstances where
  credentials : Credentials
  limit : Duration := Schema.defaultStatementTimeout
  /-- Why the connection is refused, if it is. -/
  refusal : Option String := none
  faults : List CallFault := []

namespace Circumstances

/-- Whether a session is opened. -/
def opens (circumstances : Circumstances) : Bool :=
  !circumstances.credentials.hosts.isEmpty && circumstances.refusal.isNone

/-- The session of a run. -/
def session (circumstances : Circumstances) : Session MemoryCluster where
  connector := MemoryCluster.connector circumstances.refusal circumstances.faults
  limit := circumstances.limit

end Circumstances

/-- A run of statements on a cluster in memory. -/
structure ClusterRun extends Circumstances where
  statements : List Statement

namespace MemoryCluster

/-- The cluster with one session more. -/
def connected (cluster : MemoryCluster) : MemoryCluster :=
  { cluster with connects := cluster.connects + 1, openSessions := cluster.openSessions + 1 }

/-- The cluster with one session less. -/
def released (cluster : MemoryCluster) : MemoryCluster :=
  { cluster with openSessions := cluster.openSessions - 1 }

/-- The same sessions are open and the same number was ever opened. -/
def SameSessions (before after : MemoryCluster) : Prop :=
  after.openSessions = before.openSessions ∧ after.connects = before.connects

end MemoryCluster

namespace ClusterRun

open Schema

/-- What a run on a cluster comes to. -/
def outcome (run : ClusterRun) (cluster : MemoryCluster) :
    Outcome MemoryCluster ProvisionError Report :=
  provision run.session.connector run.credentials run.limit run.statements cluster

/-- The runs of a history, each with the cluster that it finds. -/
def history (cluster : MemoryCluster) : List ClusterRun → List (ClusterRun × MemoryCluster)
  | [] => []
  | run :: rest => (run, cluster) :: history (run.outcome cluster).state rest

/-- The cluster that a history leaves. -/
def clusterAfter (cluster : MemoryCluster) (runs : List ClusterRun) : MemoryCluster :=
  runs.foldl (fun cluster run => (run.outcome cluster).state) cluster

/-- The cluster during the session of a run, after the calls with some statements. -/
def during (run : ClusterRun) (cluster : MemoryCluster) (statements : List Statement) :
    MemoryCluster :=
  run.session.stateAfter 0 cluster.connected statements

variable {run : ClusterRun}

theorem opens_iff : run.opens = true ↔ run.credentials.hosts ≠ [] ∧ run.refusal = none := by
  simp [Circumstances.opens]

theorem outcome_of_noHosts (hosts : run.credentials.hosts = []) (cluster : MemoryCluster) :
    run.outcome cluster =
      { result := .error (.connection run.credentials.hostList Connector.noHosts)
        state := cluster
        trace := [] } :=
  provision_of_noHosts hosts run.statements cluster

theorem outcome_of_refused {reason : String} (hosts : run.credentials.hosts ≠ [])
    (refused : run.refusal = some reason) (cluster : MemoryCluster) :
    run.outcome cluster =
      { result := .error (.connection run.credentials.hostList reason)
        state := cluster
        trace := [.connect run.credentials] } := by
  have attempt : run.session.connector.connect run.credentials cluster =
      { events := [], state := cluster, refusal := some reason } := by
    simp only [Circumstances.session, MemoryCluster.connector, refused]
  rw [outcome, provision_of_refused hosts (by rw [attempt]), attempt]
  rfl

/-- A run that opens no session leaves the cluster alone. -/
theorem outcome_of_unopened (unopened : ¬run.opens = true) (cluster : MemoryCluster) :
    ∃ error, (run.outcome cluster).result = .error error ∧ error.statementIndex? = none ∧
      (run.outcome cluster).state = cluster := by
  by_cases hosts : run.credentials.hosts = []
  · rw [outcome_of_noHosts hosts]
    exact ⟨_, rfl, rfl, rfl⟩
  · cases refusal : run.refusal with
    | some reason =>
        rw [outcome_of_refused hosts refusal]
        exact ⟨_, rfl, rfl, rfl⟩
    | none => exact absurd (opens_iff.2 ⟨hosts, refusal⟩) unopened

theorem connect_of_accepted (accepted : run.refusal = none) (cluster : MemoryCluster) :
    run.session.connector.connect run.credentials cluster =
      { events := [], state := cluster.connected, refusal := none } := by
  simp only [Circumstances.session, MemoryCluster.connector, accepted, MemoryCluster.connected]

/-- A run that opens a session halts at its first failing call or goes to its end. -/
theorem outcome_of_opens (opens : run.opens = true) (cluster : MemoryCluster) :
    (∃ position statement failure, run.statements[position]? = some statement ∧
      (∀ earlier < position,
        run.session.failure? cluster.connected run.statements earlier = none) ∧
      run.session.failure? cluster.connected run.statements position = some failure ∧
      run.outcome cluster =
        { result := .error (failure.error run.limit position statement.text)
          state := (run.during cluster (run.statements.take (position + 1))).released
          trace := .connect run.credentials ::
            (recordsFrom 0 (run.statements.take (position + 1)) ++ [.release]) }) ∨
    (∀ position, run.session.failure? cluster.connected run.statements position = none) ∧
      run.outcome cluster =
        { result := .ok
            { executed := run.statements.length, appended := appendCount run.statements }
          state := (run.during cluster run.statements).released
          trace := .connect run.credentials ::
            (recordsFrom 0 run.statements ++
              [.event (.schemaCompleted run.statements.length (appendCount run.statements))] ++
              [.release]) } := by
  rcases opens_iff.1 opens with ⟨hosts, accepted⟩
  have attempt := connect_of_accepted accepted cluster
  have connected : (run.session.connector.connect run.credentials cluster).refusal = none := by
    rw [attempt]
  have start : (run.session.connector.connect run.credentials cluster).state =
      cluster.connected := by
    rw [attempt]
  have silent : (run.session.connector.connect run.credentials cluster).events = [] := by
    rw [attempt]
  by_cases failing : ∃ position,
      run.session.failure? cluster.connected run.statements position ≠ none
  · -- Some call fails, so there is a first one that does.
    rcases failing with ⟨bound, fails⟩
    rcases run.session.first_failure_below cluster.connected run.statements (bound + 1) with
      none | ⟨position, failure, before, failed⟩
    · exact absurd (none bound (Nat.lt_succ_self bound)) fails
    · left
      rw [← start] at before failed
      rcases provision_of_failure hosts connected before failed with ⟨statement, found, ran⟩
      rw [start] at before failed ran
      rw [silent] at ran
      exact ⟨position, statement, failure, found, before, failed, ran⟩
  · right
    have succeeded (position : Nat) :
        run.session.failure? cluster.connected run.statements position = none := by
      by_contra fails
      exact failing ⟨position, fails⟩
    have ran := succeeded
    rw [← start] at ran
    have ran := provision_of_success hosts connected ran
    rw [start, silent] at ran
    exact ⟨succeeded, ran⟩

end ClusterRun

end MailProvision
