import Mathlib.Data.String.Basic
import MailProvision.Cluster.Memory
import MailProvision.Proofs.Schema.Halting

/-!
# What calls do to a cluster in memory

A statement that the cluster understands is one of three commands, and `Command.perform` is all that
it does. A call either performs its command, or fails and leaves what the cluster holds as it was
(`call_cases`). The names that a cluster holds stay in ascending order, so that a name that is there
is not added again.
-/

namespace MailProvision

namespace MemoryCluster

/-! ### Names in ascending order -/

/-- Names in ascending order, each of them once. -/
def Ascending (names : List String) : Prop :=
  names.Pairwise (· < ·)

theorem mem_insertName (name candidate : String) (names : List String) :
    candidate ∈ insertName name names ↔ candidate = name ∨ candidate ∈ names := by
  induction names with
  | nil => simp [insertName]
  | cons first rest ih =>
      simp only [insertName]
      split
      · rename_i same
        simp [same]
      · split
        · simp
        · simp only [List.mem_cons, ih]
          exact or_left_comm

theorem ascending_insertName (name : String) {names : List String} (ascending : Ascending names) :
    Ascending (insertName name names) := by
  induction names with
  | nil => exact List.pairwise_singleton _ _
  | cons first rest ih =>
      rcases List.pairwise_cons.mp ascending with ⟨least, others⟩
      simp only [insertName]
      split
      · exact ascending
      · rename_i other
        split
        · rename_i before
          refine List.pairwise_cons.mpr ⟨?_, ascending⟩
          intro candidate member
          rcases List.mem_cons.mp member with rfl | later
          · exact before
          · exact before.trans (least candidate later)
        · rename_i notBefore
          refine List.pairwise_cons.mpr ⟨?_, ih others⟩
          intro candidate member
          rcases (mem_insertName name candidate rest).1 member with rfl | later
          · exact lt_of_le_of_ne (not_lt.mp notBefore) (Ne.symm other)
          · exact least candidate later

theorem insertName_of_mem {name : String} {names : List String} (ascending : Ascending names)
    (member : name ∈ names) : insertName name names = names := by
  induction names with
  | nil => cases member
  | cons first rest ih =>
      rcases List.pairwise_cons.mp ascending with ⟨least, others⟩
      rcases List.mem_cons.mp member with rfl | later
      · simp [insertName]
      · have after : first < name := least name later
        simp [insertName, after.ne', after.not_gt, ih others later]

/-! ### Commands -/

/-- What a statement asks of the cluster. -/
inductive Command where
  | createKeyspace (name : String)
  | createTable (name : String)
  | addRow (table : String)
deriving DecidableEq

namespace Command

/-- The command that a text spells, if it spells one. -/
def ofChars? (chars : List Char) : Option Command :=
  match afterPrefix? "CREATE KEYSPACE IF NOT EXISTS " chars with
  | some rest => some (.createKeyspace (objectName rest))
  | none =>
      match afterPrefix? "CREATE TABLE IF NOT EXISTS " chars with
      | some rest => some (.createTable (objectName rest))
      | none => (afterPrefix? "INSERT INTO " chars).map fun rest => .addRow (objectName rest)

/-- What has to be there for the command to be performed. -/
def Ready (cluster : MemoryCluster) : Command → Prop
  | createKeyspace _ => True
  | createTable name => keyspaceOf name ∈ cluster.keyspaces
  | addRow table => table ∈ cluster.tables

/-- The cluster after the command. -/
def perform (cluster : MemoryCluster) : Command → MemoryCluster
  | createKeyspace name => { cluster with keyspaces := insertName name cluster.keyspaces }
  | createTable name => { cluster with tables := insertName name cluster.tables }
  | addRow table => { cluster with rows := MemoryCluster.addRow table cluster.rows }

end Command

theorem apply_ok_iff {cluster after : MemoryCluster} {text : String} :
    cluster.apply text = .ok after ↔
      ∃ command, Command.ofChars? text.toList = some command ∧ command.Ready cluster ∧
        command.perform cluster = after := by
  simp only [apply, Command.ofChars?]
  cases afterPrefix? "CREATE KEYSPACE IF NOT EXISTS " text.toList with
  | some rest => simp [Command.Ready, Command.perform]
  | none =>
      cases afterPrefix? "CREATE TABLE IF NOT EXISTS " text.toList with
      | some rest =>
          by_cases known : keyspaceOf (objectName rest) ∈ cluster.keyspaces
          · simp [known, Command.Ready, Command.perform]
          · simp [known, Command.Ready]
      | none =>
          cases afterPrefix? "INSERT INTO " text.toList with
          | some rest =>
              by_cases known : objectName rest ∈ cluster.tables
              · simp [known, Command.Ready, Command.perform]
              · simp [known, Command.Ready]
          | none => simp

/-! ### Calls -/

section Calls

variable {cluster : MemoryCluster}

/-- An answer to a call either tells that the command was performed or refuses it. -/
theorem react_answer {fault : CallFault} {text : String} {answer : Answer MemoryCluster}
    (answered : (cluster.react fault text).answer = some answer) :
    (∃ command, Command.ofChars? text.toList = some command ∧ command.Ready cluster ∧
      answer.refusal = none ∧
        answer.state = command.perform { cluster with executed := cluster.executed + 1 }) ∨
    ∃ chain, answer.refusal = some chain ∧
      answer.state = { cluster with executed := cluster.executed + 1 } := by
  simp only [react] at answered
  split at answered
  · cases answered
  · cases refusal : fault.refusal with
    | some chain =>
        simp only [refusal, Option.some.injEq] at answered
        subst answered
        exact .inr ⟨chain, rfl, rfl⟩
    | none =>
        simp only [refusal, Option.some.injEq, respond] at answered
        split at answered
        · rename_i after applied
          subst answered
          rcases apply_ok_iff.1 applied with ⟨command, spelled, ready, performed⟩
          exact .inl ⟨command, spelled, ready, rfl, performed.symm⟩
        · rename_i reason applied
          subst answered
          exact .inr ⟨[reason], rfl, rfl⟩

/-- Everything that a call does: it performs its command, or it fails and at most counts as
answered. -/
theorem react_cases (cluster : MemoryCluster) (fault : CallFault) (limit : Duration)
    (text : String) :
    (∃ command, Command.ofChars? text.toList = some command ∧ command.Ready cluster ∧
      (cluster.react fault text).failure? limit = none ∧
        (cluster.react fault text).left limit =
          command.perform { cluster with executed := cluster.executed + 1 }) ∨
    ∃ failure, (cluster.react fault text).failure? limit = some failure ∧
      ((cluster.react fault text).left limit = cluster ∨
        (cluster.react fault text).left limit =
          { cluster with executed := cluster.executed + 1 }) := by
  rcases (cluster.react fault text).judged limit with
    ⟨overrun, kept⟩ | ⟨answer, answered, judged, kept⟩
  · exact .inr ⟨.overrun, overrun, .inl kept⟩
  · rcases react_answer answered with
      ⟨command, spelled, ready, accepted, performed⟩ | ⟨chain, refused, counted⟩
    · rw [accepted] at judged
      exact .inl ⟨command, spelled, ready, judged, kept.trans performed⟩
    · rw [refused] at judged
      exact .inr ⟨.refused chain, judged, .inr (kept.trans counted)⟩

theorem left_of_success {fault : CallFault} {limit : Duration} {text : String}
    {command : Command} (spelled : Command.ofChars? text.toList = some command)
    (succeeded : (cluster.react fault text).failure? limit = none) :
    (cluster.react fault text).left limit =
      command.perform { cluster with executed := cluster.executed + 1 } := by
  rcases cluster.react_cases fault limit text with
    ⟨performed, same, _, _, kept⟩ | ⟨failure, failed, _⟩
  · obtain rfl : performed = command := Option.some.inj (same.symm.trans spelled)
    exact kept
  · rw [succeeded] at failed
    cases failed

theorem left_of_failure {fault : CallFault} {limit : Duration} {text : String}
    {failure : CallFailure}
    (failed : (cluster.react fault text).failure? limit = some failure) :
    ∃ count, (cluster.react fault text).left limit = { cluster with executed := count } := by
  rcases cluster.react_cases fault limit text with
    ⟨_, _, _, succeeded, _⟩ | ⟨_, _, kept | counted⟩
  · rw [failed] at succeeded
    cases succeeded
  · exact ⟨cluster.executed, kept⟩
  · exact ⟨cluster.executed + 1, counted⟩

theorem react_of_ready {call : Nat} {text : String} {command : Command} (limit : Duration)
    (spelled : Command.ofChars? text.toList = some command) (ready : command.Ready cluster) :
    (cluster.react { call } text).failure? limit = none := by
  have applied : ({ cluster with executed := cluster.executed + 1 } : MemoryCluster).apply text =
      .ok (command.perform { cluster with executed := cluster.executed + 1 }) := by
    refine apply_ok_iff.2 ⟨command, spelled, ?_, rfl⟩
    cases command <;> exact ready
  simp [react, respond, applied, Reaction.failure?]

end Calls

end MemoryCluster

end MailProvision
