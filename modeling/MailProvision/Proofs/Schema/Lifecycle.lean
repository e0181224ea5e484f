import MailProvision.Proofs.Schema.History

/-!
# The life of a session

What a run records is told by how it ends (`Chronicle`): nothing without a host, an attempt alone if
the connection is refused, and otherwise a session from its connection to its release, with the
records of the statements that were tried in between. Calls neither open nor close sessions, so
after each run as many are open as before.
-/

namespace MailProvision

namespace MemoryCluster

namespace SameSessions

variable {first second third : MemoryCluster}

theorem refl (cluster : MemoryCluster) : SameSessions cluster cluster :=
  ⟨rfl, rfl⟩

theorem trans (before : SameSessions first second) (after : SameSessions second third) :
    SameSessions first third :=
  ⟨after.1.trans before.1, after.2.trans before.2⟩

end SameSessions

theorem sameSessions_perform (cluster : MemoryCluster) (command : Command) :
    SameSessions cluster (command.perform cluster) := by
  cases command <;> exact ⟨rfl, rfl⟩

theorem sameSessions_left (cluster : MemoryCluster) (fault : CallFault) (limit : Duration)
    (text : String) : SameSessions cluster ((cluster.react fault text).left limit) := by
  rcases cluster.react_cases fault limit text with
    ⟨command, _, _, _, performed⟩ | ⟨_, _, kept | counted⟩
  · rw [performed]
    exact sameSessions_perform { cluster with executed := cluster.executed + 1 } command
  · rw [kept]
    exact .refl cluster
  · rw [counted]
    exact ⟨rfl, rfl⟩

end MemoryCluster

namespace Circumstances

theorem sameSessions_stateAfter (circumstances : Circumstances) (index : Nat)
    (cluster : MemoryCluster) (statements : List Statement) :
    cluster.SameSessions (circumstances.session.stateAfter index cluster statements) := by
  induction statements generalizing index cluster with
  | nil => exact .refl cluster
  | cons statement rest ih =>
      rw [Session.stateAfter]
      exact (cluster.sameSessions_left _ circumstances.limit statement.text).trans (ih _ _)

end Circumstances

namespace ClusterRun

open Schema

/-- What a run records, with what it comes to. -/
inductive Chronicle (run : ClusterRun) : Except ProvisionError Report → List Activity → Prop where
  | noHosts (hosts : run.credentials.hosts = []) :
      Chronicle run (.error (.connection run.credentials.hostList Connector.noHosts)) []
  | refused {reason : String} (hosts : run.credentials.hosts ≠ [])
      (refusal : run.refusal = some reason) :
      Chronicle run (.error (.connection run.credentials.hostList reason))
        [.connect run.credentials]
  /-- The statements up to the one that the error names are tried. -/
  | halted {position : Nat} {error : ProvisionError} (opens : run.opens = true)
      (within : position < run.statements.length)
      (index : error.statementIndex? = some position) :
      Chronicle run (.error error)
        (.connect run.credentials ::
          (recordsFrom 0 (run.statements.take (position + 1)) ++ [.release]))
  /-- All statements are tried. -/
  | completed {report : Report} (opens : run.opens = true)
      (executed : report.executed = run.statements.length)
      (appended : report.appended = appendCount run.statements) :
      Chronicle run (.ok report)
        (.connect run.credentials ::
          (recordsFrom 0 run.statements ++
            [.event (.schemaCompleted report.executed report.appended)] ++ [.release]))

theorem chronicle_outcome (run : ClusterRun) (cluster : MemoryCluster) :
    Chronicle run (run.outcome cluster).result (run.outcome cluster).trace := by
  by_cases hosts : run.credentials.hosts = []
  · rw [outcome_of_noHosts hosts]
    exact .noHosts hosts
  · cases refusal : run.refusal with
    | some reason =>
        rw [outcome_of_refused hosts refusal]
        exact .refused hosts refusal
    | none =>
        have opens : run.opens = true := opens_iff.2 ⟨hosts, refusal⟩
        rcases outcome_of_opens opens cluster with
          ⟨position, statement, failure, found, _, _, halted⟩ | ⟨_, completed⟩
        · rw [halted]
          rcases List.getElem?_eq_some_iff.mp found with ⟨within, _⟩
          refine .halted opens within ?_
          cases failure <;> rfl
        · rw [completed]
          exact .completed opens rfl rfl

/-- Statements leave nothing but reports and calls in a trace. -/
theorem mem_recordsFrom {index : Nat} {statements : List Statement} {activity : Activity}
    (member : activity ∈ recordsFrom index statements) :
    (∃ event, activity = .event event) ∨ ∃ call text, activity = .execute call text := by
  induction statements generalizing index with
  | nil => cases member
  | cons statement rest ih =>
      rcases List.mem_append.mp member with here | later
      · by_cases idempotent : statement.isIdempotent = true
        · simp only [recordsOf, idempotent, if_true, List.nil_append, List.mem_cons,
            List.not_mem_nil, or_false] at here
          rcases here with rfl | rfl
          · exact .inl ⟨_, rfl⟩
          · exact .inr ⟨_, _, rfl⟩
        · simp only [recordsOf, idempotent, List.cons_append, List.nil_append,
            List.mem_cons, List.not_mem_nil, or_false, Bool.false_eq_true, if_false] at here
          rcases here with rfl | rfl | rfl
          · exact .inl ⟨_, rfl⟩
          · exact .inl ⟨_, rfl⟩
          · exact .inr ⟨_, _, rfl⟩
      · exact ih later

/-- A call lies between the connection and the release. -/
structure Enclosed (credentials : Credentials) (earlier later : List Activity) : Prop where
  connected : earlier.head? = some (.connect credentials)
  unreleased : .release ∉ earlier
  released : later.getLast? = some .release
  once : ∀ other, .connect other ∉ later

theorem enclosed_of_body {credentials : Credentials} {body earlier later : List Activity}
    {call : Nat} {text : String}
    (quiet : ∀ activity ∈ body, (∃ event, activity = .event event) ∨
      ∃ call text, activity = .execute call text)
    (split : .connect credentials :: (body ++ [.release]) =
      earlier ++ .execute call text :: later) :
    Enclosed credentials earlier later := by
  rcases earlier with _ | ⟨first, earlier⟩
  · cases split
  · simp only [List.cons_append, List.cons.injEq] at split
    rcases split with ⟨rfl, split⟩
    -- The trace ends in the release, which is no call, so the release ends what comes after it.
    rcases List.eq_nil_or_concat later with rfl | ⟨middle, last, rfl⟩
    · have ends := (List.append_inj' split rfl).2
      simp at ends
    · rw [List.concat_eq_append, ← List.cons_append, ← List.append_assoc] at split
      rcases List.append_inj' split rfl with ⟨rfl, ends⟩
      obtain rfl : last = .release := by simpa using ends.symm
      have exchanged (activity : Activity)
          (member : activity ∈ earlier ++ .execute call text :: middle)
          (unquiet : activity = .release ∨ ∃ other, activity = .connect other) : False := by
        rcases quiet activity member with ⟨event, rfl⟩ | ⟨number, words, rfl⟩ <;>
          rcases unquiet with impossible | ⟨other, impossible⟩ <;> cases impossible
      refine { connected := rfl, unreleased := ?_, released := ?_, once := ?_ }
      · intro member
        rcases List.mem_cons.mp member with impossible | within
        · cases impossible
        · exact exchanged _ (List.mem_append_left _ within) (.inl rfl)
      · rw [List.concat_eq_append, List.getLast?_concat]
      · intro other member
        rw [List.concat_eq_append] at member
        rcases List.mem_append.mp member with within | impossible
        · exact exchanged _ (List.mem_append_right _ (List.mem_cons_of_mem _ within))
            (.inr ⟨other, rfl⟩)
        · simp at impossible

/-- In every trace each call lies between the connection and the release. -/
theorem Chronicle.enclosed {run : ClusterRun} {result : Except ProvisionError Report}
    {earlier later : List Activity} {call : Nat} {text : String}
    (chronicle : Chronicle run result (earlier ++ .execute call text :: later)) :
    Enclosed run.credentials earlier later := by
  generalize split : earlier ++ .execute call text :: later = trace at chronicle
  cases chronicle with
  | noHosts => simp at split
  | refused =>
      rcases earlier with _ | ⟨first, earlier⟩
      · cases split
      · simp at split
  | halted => exact enclosed_of_body (fun _ => mem_recordsFrom) split.symm
  | completed =>
      refine enclosed_of_body ?_ split.symm
      intro activity member
      rcases List.mem_append.mp member with tried | told
      · exact mem_recordsFrom tried
      · exact .inl ⟨_, List.mem_singleton.mp told⟩

theorem sameSessions_during (run : ClusterRun) (cluster : MemoryCluster)
    (statements : List Statement) :
    cluster.connected.SameSessions (run.during cluster statements) :=
  run.sameSessions_stateAfter 0 cluster.connected statements

/-- A run leaves as many sessions open as it found, and opens at most one. -/
theorem sessions_outcome (run : ClusterRun) (cluster : MemoryCluster) :
    (run.outcome cluster).state.openSessions = cluster.openSessions ∧
      (run.outcome cluster).state.connects =
        cluster.connects + if run.opens then 1 else 0 := by
  by_cases opens : run.opens = true
  · have closes (statements : List Statement) :
        (run.during cluster statements).released.openSessions = cluster.openSessions ∧
          (run.during cluster statements).released.connects = cluster.connects + 1 := by
      rcases run.sameSessions_during cluster statements with ⟨open_, opened⟩
      refine ⟨?_, opened⟩
      rw [MemoryCluster.released, open_]
      exact Nat.add_sub_cancel cluster.openSessions 1
    simp only [opens, if_true]
    rcases outcome_of_opens opens cluster with
      ⟨position, _, _, _, _, _, halted⟩ | ⟨_, completed⟩
    · rw [halted]
      exact closes _
    · rw [completed]
      exact closes _
  · rcases outcome_of_unopened opens cluster with ⟨_, _, _, same⟩
    rw [same]
    simp [opens]

theorem clusterAfter_cons (cluster : MemoryCluster) (run : ClusterRun)
    (rest : List ClusterRun) :
    clusterAfter cluster (run :: rest) = clusterAfter (run.outcome cluster).state rest :=
  rfl

theorem sessions_clusterAfter (cluster : MemoryCluster) (runs : List ClusterRun) :
    (clusterAfter cluster runs).openSessions = cluster.openSessions ∧
      (clusterAfter cluster runs).connects =
        cluster.connects + runs.countP fun run => run.opens := by
  induction runs generalizing cluster with
  | nil => exact ⟨rfl, rfl⟩
  | cons run rest ih =>
      rcases run.sessions_outcome cluster with ⟨closed, opened⟩
      rcases ih (run.outcome cluster).state with ⟨closedAfter, openedAfter⟩
      rw [clusterAfter_cons, closedAfter, openedAfter, closed, opened, List.countP_cons]
      exact ⟨rfl, by omega⟩

/-- What one run of a history does to the sessions, and what it records. -/
structure Lives (run : ClusterRun) (before : MemoryCluster)
    (outcome : Outcome MemoryCluster ProvisionError Report) : Prop where
  chronicle : Chronicle run outcome.result outcome.trace
  openSessions : outcome.state.openSessions = before.openSessions
  connects : outcome.state.connects = before.connects + if run.opens then 1 else 0
  enclosed : ∀ earlier call text later,
    outcome.trace = earlier ++ .execute call text :: later →
      Enclosed run.credentials earlier later

theorem lives_outcome (run : ClusterRun) (cluster : MemoryCluster) :
    Lives run cluster (run.outcome cluster) := by
  have chronicle := run.chronicle_outcome cluster
  refine {
    chronicle
    openSessions := (run.sessions_outcome cluster).1
    connects := (run.sessions_outcome cluster).2
    enclosed := ?_ }
  intro earlier call text later split
  rw [split] at chronicle
  exact chronicle.enclosed

/-- Whatever runs follow one another on a cluster, each of them records its session from the
connection to the release, and when it is over no session of it is left. -/
theorem every_session_is_released (cluster : MemoryCluster) (runs : List ClusterRun) :
    (∀ entry ∈ history cluster runs,
      Lives entry.1 entry.2 (entry.1.outcome entry.2)) ∧
    (clusterAfter cluster runs).openSessions = cluster.openSessions ∧
    (clusterAfter cluster runs).connects =
      cluster.connects + runs.countP fun run => run.opens :=
  ⟨fun entry _ => entry.1.lives_outcome entry.2, sessions_clusterAfter cluster runs⟩

theorem every_session_is_released_after_hanging :
    let credentials := Credentials.ofHosts ["a"] Credentials.defaultPort
    let refused : ClusterRun := { credentials, refusal := some "no", statements := sample }
    let hanging : ClusterRun :=
      { credentials, faults := [{ call := 1, hangs := true }], statements := sample }
    (hanging, {}) ∈ history {} [refused, hanging] ∧ Lives hanging {} (hanging.outcome {}) ∧
      (hanging.outcome {}).trace =
        .connect credentials :: (recordsFrom 0 (sample.take 2) ++ [.release]) ∧
      (clusterAfter {} [refused, hanging]).openSessions = 0 ∧
      (clusterAfter {} [refused, hanging]).connects = 1 := by
  intro credentials refused hanging
  have member : (hanging, {}) ∈ history {} [refused, hanging] :=
    List.mem_cons_of_mem _ List.mem_cons_self
  have released := every_session_is_released {} [refused, hanging]
  exact ⟨member, released.1 _ member, rfl, released.2.1, released.2.2⟩

end ClusterRun

end MailProvision
