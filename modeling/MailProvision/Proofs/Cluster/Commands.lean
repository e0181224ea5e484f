import MailProvision.Proofs.Schema.History

/-!
# Commands one after the other

What a session does to what a cluster holds is what the commands of its calls do, up to the first
call that fails (`stateAfter_of_success`, `stateAfter_of_failure`). Commands only add names, and a
name that is there is not added again; rows are only added by commands for rows.
-/

namespace MailProvision

namespace MemoryCluster

namespace Command

theorem perform_counted (command : Command) (cluster : MemoryCluster) (count : Nat) :
    command.perform { cluster with executed := count } =
      { command.perform cluster with executed := count } := by
  cases command <;> rfl

/-- The cluster after commands in order. -/
def performAll (cluster : MemoryCluster) (commands : List Command) : MemoryCluster :=
  commands.foldl (fun cluster command => command.perform cluster) cluster

theorem performAll_append (cluster : MemoryCluster) (first second : List Command) :
    performAll cluster (first ++ second) = performAll (performAll cluster first) second :=
  List.foldl_append

theorem performAll_counted (commands : List Command) (cluster : MemoryCluster) (count : Nat) :
    performAll { cluster with executed := count } commands =
      { performAll cluster commands with executed := count } := by
  induction commands generalizing cluster with
  | nil => rfl
  | cons command rest ih =>
      simp only [performAll, List.foldl_cons, perform_counted]
      exact ih (command.perform cluster)

/-- Each command can be performed when its turn comes. -/
def AllReady (cluster : MemoryCluster) : List Command → Prop
  | [] => True
  | command :: rest => command.Ready cluster ∧ AllReady (command.perform cluster) rest

theorem allReady_append {cluster : MemoryCluster} {first second : List Command} :
    AllReady cluster (first ++ second) ↔
      AllReady cluster first ∧ AllReady (performAll cluster first) second := by
  induction first generalizing cluster with
  | nil => simp [AllReady, performAll]
  | cons command rest ih =>
      simp only [List.cons_append, AllReady, ih, and_assoc]
      rfl

theorem allReady_counted {cluster : MemoryCluster} {commands : List Command} (count : Nat) :
    AllReady { cluster with executed := count } commands ↔ AllReady cluster commands := by
  induction commands generalizing cluster with
  | nil => exact Iff.rfl
  | cons command rest ih =>
      rw [AllReady, AllReady, perform_counted, ih]
      cases command <;> exact Iff.rfl

end Command

/-! ### What commands add -/

/-- All names of one cluster are names of another. -/
structure Grows (before after : MemoryCluster) : Prop where
  keyspaces : ∀ name ∈ before.keyspaces, name ∈ after.keyspaces
  tables : ∀ name ∈ before.tables, name ∈ after.tables

namespace Grows

theorem refl (cluster : MemoryCluster) : Grows cluster cluster :=
  { keyspaces := fun _ member => member, tables := fun _ member => member }

theorem trans {first second third : MemoryCluster} (before : Grows first second)
    (after : Grows second third) : Grows first third where
  keyspaces name member := after.keyspaces name (before.keyspaces name member)
  tables name member := after.tables name (before.tables name member)

end Grows

/-- The names of a cluster are kept in ascending order. -/
structure Sorted (cluster : MemoryCluster) : Prop where
  keyspaces : Ascending cluster.keyspaces
  tables : Ascending cluster.tables

namespace Command

/-- What a command creates is there. -/
def Present (cluster : MemoryCluster) : Command → Prop
  | createKeyspace name => name ∈ cluster.keyspaces
  | createTable name => name ∈ cluster.tables
  | addRow _ => True

/-- A command that creates something unless it is there. -/
def Creates : Command → Prop
  | createKeyspace _ => True
  | createTable _ => True
  | addRow _ => False

theorem grows_perform (cluster : MemoryCluster) (command : Command) :
    cluster.Grows (command.perform cluster) := by
  cases command with
  | createKeyspace name =>
      exact { keyspaces := fun _ member => (mem_insertName name _ _).2 (.inr member)
              tables := fun _ member => member }
  | createTable name =>
      exact { keyspaces := fun _ member => member
              tables := fun _ member => (mem_insertName name _ _).2 (.inr member) }
  | addRow table => exact ⟨fun _ member => member, fun _ member => member⟩

theorem sorted_perform {cluster : MemoryCluster} (sorted : cluster.Sorted) (command : Command) :
    (command.perform cluster).Sorted := by
  cases command with
  | createKeyspace name =>
      exact { sorted with keyspaces := ascending_insertName name sorted.keyspaces }
  | createTable name => exact { sorted with tables := ascending_insertName name sorted.tables }
  | addRow table => exact ⟨sorted.keyspaces, sorted.tables⟩

theorem present_perform (cluster : MemoryCluster) (command : Command) :
    command.Present (command.perform cluster) := by
  cases command with
  | createKeyspace name => exact (mem_insertName name _ _).2 (.inl rfl)
  | createTable name => exact (mem_insertName name _ _).2 (.inl rfl)
  | addRow table => trivial

theorem Present.of_grows {before after : MemoryCluster} {command : Command}
    (present : command.Present before) (grows : before.Grows after) : command.Present after := by
  cases command with
  | createKeyspace name => exact grows.keyspaces name present
  | createTable name => exact grows.tables name present
  | addRow table => trivial

theorem Ready.of_grows {before after : MemoryCluster} {command : Command}
    (ready : command.Ready before) (grows : before.Grows after) : command.Ready after := by
  cases command with
  | createKeyspace name => trivial
  | createTable name => exact grows.keyspaces _ ready
  | addRow table => exact grows.tables table ready

theorem perform_of_present {cluster : MemoryCluster} {command : Command}
    (sorted : cluster.Sorted) (creates : command.Creates) (present : command.Present cluster) :
    command.perform cluster = cluster := by
  cases command with
  | createKeyspace name =>
      rw [perform, insertName_of_mem sorted.keyspaces present]
  | createTable name =>
      rw [perform, insertName_of_mem sorted.tables present]
  | addRow table => exact creates.elim

theorem grows_performAll (cluster : MemoryCluster) (commands : List Command) :
    cluster.Grows (performAll cluster commands) := by
  induction commands generalizing cluster with
  | nil => exact .refl cluster
  | cons command rest ih => exact (grows_perform cluster command).trans (ih _)

theorem sorted_performAll {cluster : MemoryCluster} (sorted : cluster.Sorted)
    (commands : List Command) : (performAll cluster commands).Sorted := by
  induction commands generalizing cluster with
  | nil => exact sorted
  | cons command rest ih => exact ih (sorted_perform sorted command)

theorem present_performAll (cluster : MemoryCluster) {commands : List Command}
    {command : Command} (member : command ∈ commands) :
    command.Present (performAll cluster commands) := by
  induction commands generalizing cluster with
  | nil => cases member
  | cons first rest ih =>
      rcases List.mem_cons.mp member with rfl | later
      · exact (present_perform cluster command).of_grows (grows_performAll _ rest)
      · exact ih _ later

/-- A command that was performed in its turn could be performed again. -/
theorem ready_performAll {cluster : MemoryCluster} {commands : List Command} {command : Command}
    (ready : AllReady cluster commands) (member : command ∈ commands) :
    command.Ready (performAll cluster commands) := by
  induction commands generalizing cluster with
  | nil => cases member
  | cons first rest ih =>
      rcases List.mem_cons.mp member with rfl | later
      · exact ready.1.of_grows ((grows_perform cluster command).trans (grows_performAll _ rest))
      · exact ih ready.2 later

theorem rows_performAll (cluster : MemoryCluster) {commands : List Command}
    (create : ∀ command ∈ commands, command.Creates) :
    (performAll cluster commands).rows = cluster.rows := by
  induction commands generalizing cluster with
  | nil => rfl
  | cons command rest ih =>
      have first := create command List.mem_cons_self
      have others := ih (command.perform cluster) fun other member =>
        create other (List.mem_cons_of_mem _ member)
      refine Eq.trans others ?_
      cases command with
      | createKeyspace name => rfl
      | createTable name => rfl
      | addRow table => exact first.elim

theorem mem_performAll {cluster : MemoryCluster} {commands : List Command} {name : String} :
    (name ∈ (performAll cluster commands).keyspaces →
      name ∈ cluster.keyspaces ∨ .createKeyspace name ∈ commands) ∧
    (name ∈ (performAll cluster commands).tables →
      name ∈ cluster.tables ∨ .createTable name ∈ commands) := by
  induction commands generalizing cluster with
  | nil => exact ⟨.inl, .inl⟩
  | cons command rest ih =>
      constructor
      · intro member
        rcases (@ih (command.perform cluster)).1 member with before | later
        · cases command with
          | createKeyspace other =>
              rcases (mem_insertName other name _).1 before with rfl | old
              · exact .inr List.mem_cons_self
              · exact .inl old
          | createTable other => exact .inl before
          | addRow table => exact .inl before
        · exact .inr (List.mem_cons_of_mem _ later)
      · intro member
        rcases (@ih (command.perform cluster)).2 member with before | later
        · cases command with
          | createKeyspace other => exact .inl before
          | createTable other =>
              rcases (mem_insertName other name _).1 before with rfl | old
              · exact .inr List.mem_cons_self
              · exact .inl old
          | addRow table => exact .inl before
        · exact .inr (List.mem_cons_of_mem _ later)

end Command

/-! ### What a cluster holds -/

/-- Two clusters hold the same. -/
structure SameContent (first second : MemoryCluster) : Prop where
  keyspaces : second.keyspaces = first.keyspaces
  tables : second.tables = first.tables
  rows : second.rows = first.rows

namespace SameContent

variable {first second third : MemoryCluster}

theorem trans (before : SameContent first second) (after : SameContent second third) :
    SameContent first third where
  keyspaces := after.keyspaces.trans before.keyspaces
  tables := after.tables.trans before.tables
  rows := after.rows.trans before.rows

theorem grows (same : SameContent first second) : first.Grows second where
  keyspaces _ member := same.keyspaces.symm ▸ member
  tables _ member := same.tables.symm ▸ member

theorem sorted (same : SameContent first second) (sorted : first.Sorted) : second.Sorted where
  keyspaces := same.keyspaces.symm ▸ sorted.keyspaces
  tables := same.tables.symm ▸ sorted.tables

theorem perform (same : SameContent first second) (command : Command) :
    SameContent (command.perform first) (command.perform second) := by
  cases command with
  | createKeyspace name =>
      exact { same with keyspaces := congrArg (insertName name) same.keyspaces }
  | createTable name => exact { same with tables := congrArg (insertName name) same.tables }
  | addRow table => exact { same with rows := congrArg (MemoryCluster.addRow table) same.rows }

theorem performAll (same : SameContent first second) (commands : List Command) :
    SameContent (Command.performAll first commands) (Command.performAll second commands) := by
  induction commands generalizing first second with
  | nil => exact same
  | cons command rest ih => exact ih (same.perform command)

/-- A session that ends adds nothing to what was performed in it. -/
theorem session (cluster : MemoryCluster) (commands : List Command) (count : Nat) :
    SameContent (Command.performAll cluster commands)
      { Command.performAll cluster.connected commands with executed := count }.released := by
  have opened : SameContent cluster cluster.connected := ⟨rfl, rfl, rfl⟩
  exact (opened.performAll commands).trans ⟨rfl, rfl, rfl⟩

end SameContent

end MemoryCluster

/-! ### Sessions as commands -/

namespace Session

variable {State : Type} (session : Session State)

theorem failureFrom?_take {index : Nat} {state : State} {statements : List Statement}
    {position bound : Nat} (below : position < bound) :
    session.failureFrom? index state (statements.take bound) position =
      session.failureFrom? index state statements position := by
  rw [failureFrom?, failureFrom?, List.getElem?_take_of_lt below, List.take_take,
    Nat.min_eq_left below.le]

theorem stateAfter_take_succ {index : Nat} {state : State} {statements : List Statement}
    {position : Nat} {statement : Statement} (found : statements[position]? = some statement) :
    session.stateAfter index state (statements.take (position + 1)) =
      (session.connector.execute (index + position) statement.text
        (session.stateAfter index state (statements.take position))).left session.limit := by
  induction statements generalizing index state position with
  | nil => cases found
  | cons first rest ih =>
      cases position with
      | zero =>
          obtain rfl : first = statement := by simpa using found
          rfl
      | succ position =>
          have number : index + (position + 1) = index + 1 + position := by omega
          rw [List.getElem?_cons_succ] at found
          rw [List.take_succ_cons, List.take_succ_cons, stateAfter, stateAfter, ih found, number]

end Session

/-- Statements that spell commands, one each. -/
def Spells (statements : List Statement) (commands : List MemoryCluster.Command) : Prop :=
  statements.map (fun statement => MemoryCluster.Command.ofChars? statement.text.toList) =
    commands.map some

namespace Spells

open MemoryCluster

variable {statements : List Statement} {commands : List Command}

theorem cons_iff {statement : Statement} :
    Spells (statement :: statements) commands ↔
      ∃ command others, commands = command :: others ∧
        Command.ofChars? statement.text.toList = some command ∧ Spells statements others := by
  rcases commands with _ | ⟨command, others⟩
  · simp [Spells]
  · simp [Spells]

theorem append {furtherStatements : List Statement} {furtherCommands : List Command}
    (front : Spells statements commands) (back : Spells furtherStatements furtherCommands) :
    Spells (statements ++ furtherStatements) (commands ++ furtherCommands) := by
  rw [Spells, List.map_append, List.map_append, front, back]

theorem length_eq (spells : Spells statements commands) : statements.length = commands.length := by
  simpa using congrArg List.length spells

theorem take (spells : Spells statements commands) (bound : Nat) :
    Spells (statements.take bound) (commands.take bound) := by
  have taken := congrArg (List.take bound) spells
  rwa [← List.map_take, ← List.map_take] at taken

end Spells

namespace Circumstances

open MemoryCluster

variable {circumstances : Circumstances} {statements : List Statement} {commands : List Command}
  {cluster : MemoryCluster}

/-- Calls that all succeed perform the commands of their statements. -/
theorem stateAfter_of_success {index : Nat} (spells : Spells statements commands)
    (succeeded : ∀ position < statements.length,
      circumstances.session.failureFrom? index cluster statements position = none) :
    ∃ count, circumstances.session.stateAfter index cluster statements =
      { Command.performAll cluster commands with executed := count } := by
  induction statements generalizing index cluster commands with
  | nil =>
      obtain rfl : commands = [] := List.map_eq_nil_iff.mp spells.symm
      exact ⟨cluster.executed, rfl⟩
  | cons statement rest ih =>
      rcases Spells.cons_iff.1 spells with ⟨command, others, rfl, spelled, spells⟩
      have first := succeeded 0 (Nat.succ_pos _)
      rw [Session.failureFrom?_zero] at first
      have kept := left_of_success spelled first
      have later : ∀ position < rest.length, circumstances.session.failureFrom? (index + 1)
          (command.perform { cluster with executed := cluster.executed + 1 }) rest position =
            none := by
        intro position within
        rw [← kept]
        exact (Session.failureFrom?_succ _ _ _ _ _ _).symm.trans
          (succeeded (position + 1) (Nat.succ_lt_succ within))
      rcases ih spells later with ⟨count, ended⟩
      refine ⟨count, ?_⟩
      rw [Session.stateAfter]
      refine (congrArg (circumstances.session.stateAfter (index + 1) · rest) kept).trans ?_
      rw [ended, Command.perform_counted, Command.performAll_counted]
      rfl

/-- Calls that succeed up to a position perform the commands of the statements before it. -/
theorem stateAfter_take_of_success {index position : Nat} (spells : Spells statements commands)
    (before : ∀ earlier < position,
      circumstances.session.failureFrom? index cluster statements earlier = none) :
    ∃ count, circumstances.session.stateAfter index cluster (statements.take position) =
      { Command.performAll cluster (commands.take position) with executed := count } := by
  apply stateAfter_of_success (spells.take position)
  intro earlier within
  have below := lt_of_lt_of_le within (List.length_take_le position statements)
  rw [Session.failureFrom?_take _ below]
  exact before earlier below

/-- Up to a call that fails the commands of the statements before it are performed. -/
theorem stateAfter_of_failure {index position : Nat} {failure : CallFailure}
    {statement : Statement} (spells : Spells statements commands)
    (before : ∀ earlier < position,
      circumstances.session.failureFrom? index cluster statements earlier = none)
    (found : statements[position]? = some statement)
    (failed : circumstances.session.failureFrom? index cluster statements position =
      some failure) :
    ∃ count, circumstances.session.stateAfter index cluster (statements.take (position + 1)) =
      { Command.performAll cluster (commands.take position) with executed := count } := by
  rcases stateAfter_take_of_success spells before with ⟨count, reached⟩
  -- The call that fails comes on top of those, and it does no more than count as answered.
  rw [Session.failureFrom?, found, Option.bind_some] at failed
  rcases left_of_failure failed with ⟨answered, kept⟩
  refine ⟨answered, ?_⟩
  rw [Session.stateAfter_take_succ _ found]
  refine kept.trans ?_
  rw [reached]

/-- Without faults a call is answered as the cluster does by itself. -/
theorem execute_of_faultless (faultless : circumstances.faults = []) (index : Nat)
    (text : String) :
    circumstances.session.connector.execute index text cluster =
      cluster.react { call := index } text := by
  simp only [session, connector, faultless]
  rfl

/-- Without faults no call fails if each command can be performed when its turn comes. -/
theorem failureFrom?_of_ready {index : Nat} (spells : Spells statements commands)
    (faultless : circumstances.faults = []) (ready : Command.AllReady cluster commands)
    (position : Nat) :
    circumstances.session.failureFrom? index cluster statements position = none := by
  induction statements generalizing index position cluster commands with
  | nil => rfl
  | cons statement rest ih =>
      rcases Spells.cons_iff.1 spells with ⟨command, others, rfl, spelled, spells⟩
      have succeeded : (circumstances.session.connector.execute index statement.text
          cluster).failure? circumstances.limit = none := by
        rw [execute_of_faultless faultless]
        exact react_of_ready circumstances.limit spelled ready.1
      cases position with
      | zero => exact succeeded
      | succ position =>
          rw [Session.failureFrom?_succ]
          have kept := left_of_success spelled succeeded
          refine (congrArg (circumstances.session.failureFrom? (index + 1) · rest position)
            kept).trans ?_
          refine ih spells ?_ position
          rw [Command.perform_counted]
          exact (Command.allReady_counted _).mpr ready.2

end Circumstances

end MailProvision
