import Mathlib.Data.List.Sort
import MailProvision.Proofs.Cluster.Commands
import MailProvision.Proofs.Schema.Mail

/-!
# Running the mail schema again and again

Runs of the mail schema follow one another on a cluster that is empty at first, each with its own
options and mishaps. What a run does is a beginning of its commands, all of them if it succeeds
(`outcome_effect`). From this it follows what the cluster holds after any such history: at most the
names of the schema, all of them once a run has succeeded, and one row for each run that seeded the
table of local domains and succeeded.
-/

namespace MailProvision

namespace Schema

open MemoryCluster

/-- Whether the schema ends with a seed. -/
def Options.seeds (options : Options) : Bool :=
  options.seedDomain.any fun domain => !domain.isEmpty

/-- The commands that create the schema. -/
def creations : List Command :=
  .createKeyspace keyspace :: tables.map fun table => .createTable (qualified table)

/-- The commands of the schema. -/
def commands (options : Options) : List Command :=
  creations ++ if options.seeds then [.addRow seeded] else []

theorem spells_definitions {chosen : List Table} (schema : ∀ table ∈ chosen, table ∈ tables) :
    Spells (chosen.map fun table => Statement.idempotent table.name (table.definition keyspace))
      (chosen.map fun table => .createTable (qualified table)) := by
  induction chosen with
  | nil => rfl
  | cons table rest ih =>
      refine Spells.cons_iff.2 ⟨_, _, rfl, ?_, ?_⟩
      · exact definition_command (schema table List.mem_cons_self) table.name
      · exact ih fun other member => schema other (List.mem_cons_of_mem _ member)

theorem spells_seedStatements (options : Options) :
    Spells (seedStatements options.seedDomain)
      (if options.seeds then [.addRow seeded] else []) := by
  cases seed : options.seedDomain with
  | none =>
      simp only [seedStatements, Options.seeds, seed]
      rfl
  | some domain =>
      cases empty : domain.isEmpty with
      | true =>
          simp only [seedStatements, Options.seeds, seed, empty, Option.any_some, Bool.not_true,
            Bool.false_eq_true, ↓reduceIte]
          rfl
      | false =>
          simp only [seedStatements, Options.seeds, seed, empty, Option.any_some, Bool.not_false,
            Bool.false_eq_true, ↓reduceIte]
          exact Spells.cons_iff.2 ⟨_, _, rfl, seedText_command _ domain, rfl⟩

theorem spells_statements (options : Options) :
    Spells (statements options) (commands options) := by
  have created : Spells
      (Statement.idempotent "keyspace" (keyspaceText options.replicationFactor) ::
        tables.map fun table => Statement.idempotent table.name (table.definition keyspace))
      creations :=
    Spells.cons_iff.2
      ⟨_, _, rfl, keyspaceText_command _ _, spells_definitions fun _ member => member⟩
  exact created.append (spells_seedStatements options)

theorem creates_of_mem_creations {command : Command} (member : command ∈ creations) :
    command.Creates := by
  rcases List.mem_cons.mp member with rfl | table
  · trivial
  · rcases List.mem_map.mp table with ⟨_, _, rfl⟩
    trivial

theorem keyspaceOf_qualified {table : Table} (member : table ∈ tables) :
    keyspaceOf (qualified table) = keyspace := by
  revert table
  decide +kernel

theorem seeded_mem_creations : Command.createTable seeded ∈ creations :=
  List.mem_cons_of_mem _ (List.mem_map_of_mem (by decide +kernel))

theorem allReady_tables {chosen : List Table} (schema : ∀ table ∈ chosen, table ∈ tables)
    {cluster : MemoryCluster} (known : keyspace ∈ cluster.keyspaces) :
    Command.AllReady cluster (chosen.map fun table => .createTable (qualified table)) := by
  induction chosen generalizing cluster with
  | nil => trivial
  | cons table rest ih =>
      refine ⟨?_, ih (fun other member => schema other (List.mem_cons_of_mem _ member)) known⟩
      show keyspaceOf (qualified table) ∈ cluster.keyspaces
      rw [keyspaceOf_qualified (schema table List.mem_cons_self)]
      exact known

theorem allReady_commands (options : Options) (cluster : MemoryCluster) :
    Command.AllReady cluster (commands options) := by
  rw [commands, Command.allReady_append]
  constructor
  · refine ⟨trivial, allReady_tables (fun _ member => member) ?_⟩
    exact Command.present_perform cluster (.createKeyspace keyspace)
  · cases options.seeds with
    | false => trivial
    | true => exact ⟨Command.present_performAll cluster seeded_mem_creations, trivial⟩

end Schema

/-- A run of the mail schema on a cluster in memory. -/
structure SchemaRun extends Circumstances where
  options : Schema.Options

namespace SchemaRun

open MemoryCluster Schema

/-- The run with the statements of its schema. -/
def toRun (run : SchemaRun) : ClusterRun :=
  { run.toCircumstances with statements := statements run.options }

/-- What the run comes to. -/
def outcome (run : SchemaRun) (cluster : MemoryCluster) :
    Outcome MemoryCluster ProvisionError Report :=
  run.toRun.outcome cluster

/-- Whether the run succeeds. -/
def succeeds (run : SchemaRun) (cluster : MemoryCluster) : Bool :=
  (run.outcome cluster).result.isOk

/-- The number of statements that the run carries out: all of them, or those before the one that
fails. -/
def carriedOut (run : SchemaRun) (cluster : MemoryCluster) : Nat :=
  match (run.outcome cluster).result with
  | .ok report => report.executed
  | .error error => error.statementIndex?.getD 0

/-- The cluster that runs leave. -/
def clusterAfter (cluster : MemoryCluster) (runs : List SchemaRun) : MemoryCluster :=
  ClusterRun.clusterAfter cluster (runs.map toRun)

/-- The number of runs with a seed that succeed. -/
def seedings (cluster : MemoryCluster) : List SchemaRun → Nat
  | [] => 0
  | run :: rest =>
      (if run.succeeds cluster && run.options.seeds then 1 else 0) +
        seedings (run.outcome cluster).state rest

/-- A run performs the commands of the statements that it carries out, and all of them if and only
if it succeeds. -/
structure Effect (run : SchemaRun) (cluster : MemoryCluster) : Prop where
  within : run.carriedOut cluster ≤ (commands run.options).length
  whole : run.succeeds cluster = true ↔
    run.carriedOut cluster = (commands run.options).length
  performed : SameContent
    (Command.performAll cluster ((commands run.options).take (run.carriedOut cluster)))
    (run.outcome cluster).state

section Effect

variable {run : SchemaRun} {cluster : MemoryCluster} {trace : List Activity}

theorem effect_of_halt {position : Nat} {statement : Statement} {failure : CallFailure}
    (found : (statements run.options)[position]? = some statement)
    (before : ∀ earlier < position,
      run.session.failure? cluster.connected (statements run.options) earlier = none)
    (failed : run.session.failure? cluster.connected (statements run.options) position =
      some failure)
    (ended : run.outcome cluster =
      { result := .error (failure.error run.limit position statement.text)
        state := (run.toRun.during cluster ((statements run.options).take (position + 1))).released
        trace }) :
    Effect run cluster := by
  have spells := spells_statements run.options
  have early : position < (commands run.options).length := by
    rw [← spells.length_eq]
    exact (List.getElem?_eq_some_iff.mp found).1
  have unfinished : run.succeeds cluster = false := by
    rw [succeeds, ended]
    rfl
  have halted : run.carriedOut cluster = position := by
    rw [carriedOut, ended]
    cases failure <;> rfl
  rcases Circumstances.stateAfter_of_failure spells before found failed with ⟨count, reached⟩
  constructor
  · exact halted ▸ early.le
  · simp [unfinished, halted, early.ne]
  · rw [halted, ended, ClusterRun.during]
    refine Eq.mpr (congrArg (fun state => SameContent _ state.released) reached) ?_
    exact .session cluster _ count

theorem effect_of_completion {appended : Nat}
    (succeeded : ∀ position,
      run.session.failure? cluster.connected (statements run.options) position = none)
    (ended : run.outcome cluster =
      { result := .ok { executed := (statements run.options).length, appended }
        state := (run.toRun.during cluster (statements run.options)).released
        trace }) :
    Effect run cluster := by
  have spells := spells_statements run.options
  have finished : run.succeeds cluster = true := by
    rw [succeeds, ended]
    rfl
  have whole : run.carriedOut cluster = (commands run.options).length := by
    rw [carriedOut, ended]
    exact spells.length_eq
  rcases Circumstances.stateAfter_of_success spells fun position _ => succeeded position with
    ⟨count, reached⟩
  constructor
  · exact whole.le
  · simp [finished, whole]
  · rw [whole, ended, ClusterRun.during, List.take_length]
    refine Eq.mpr (congrArg (fun state => SameContent _ state.released) reached) ?_
    exact .session cluster _ count

theorem effect_of_unopened (unopened : ¬run.opens = true) : Effect run cluster := by
  rcases @ClusterRun.outcome_of_unopened run.toRun unopened cluster with
    ⟨error, failed, unindexed, same⟩
  have unfinished : run.succeeds cluster = false := by
    rw [succeeds, outcome, failed]
    rfl
  have nothing : run.carriedOut cluster = 0 := by
    rw [carriedOut, outcome, failed]
    exact congrArg (Option.getD · 0) unindexed
  constructor
  · exact nothing ▸ Nat.zero_le _
  · simp [unfinished, nothing, commands, creations]
  · rw [nothing, outcome, same]
    exact ⟨rfl, rfl, rfl⟩

end Effect

theorem outcome_effect (run : SchemaRun) (cluster : MemoryCluster) : Effect run cluster := by
  by_cases opens : run.opens = true
  · rcases run.toRun.outcome_of_opens opens cluster with
      ⟨_, _, _, found, before, failed, halted⟩ | ⟨succeeded, completed⟩
    · exact effect_of_halt found before failed halted
    · exact effect_of_completion succeeded completed
  · exact effect_of_unopened opens

/-- The rows after one more seed, or after none. -/
def seedRows (rows : List (String × Nat)) (seeded : Bool) : List (String × Nat) :=
  if seeded then addRow Schema.seeded rows else rows

/-- What one run of the schema does to what the cluster holds. -/
structure Advance (run : SchemaRun) (before after : MemoryCluster) : Prop where
  grows : before.Grows after
  sorted : before.Sorted → after.Sorted
  keyspaces : ∀ name ∈ after.keyspaces,
    name ∈ before.keyspaces ∨ .createKeyspace name ∈ creations
  tables : ∀ name ∈ after.tables, name ∈ before.tables ∨ .createTable name ∈ creations
  complete : run.succeeds before = true → ∀ command ∈ creations, command.Present after
  rows : after.rows = seedRows before.rows (run.succeeds before && run.options.seeds)

theorem mem_creations_of_creates {options : Options} {command : Command}
    (member : command ∈ commands options) (creates : command.Creates) : command ∈ creations := by
  rcases List.mem_append.mp member with created | seed
  · exact created
  · cases seeds : options.seeds with
    | false => simp [seeds] at seed
    | true =>
        obtain rfl : command = .addRow seeded := by simpa [seeds] using seed
        exact creates.elim

/-- The seed is the last command, so that a beginning of the commands that lacks any of them only
creates. -/
theorem mem_creations_of_mem_take {options : Options} {performed : Nat} {command : Command}
    (within : performed < (commands options).length)
    (member : command ∈ (commands options).take performed) : command ∈ creations := by
  rw [commands, List.take_append] at member
  rcases List.mem_append.mp member with created | seed
  · exact List.mem_of_mem_take created
  · cases seeds : options.seeds with
    | false => simp [seeds] at seed
    | true =>
        have short : performed - creations.length = 0 := by
          simp only [commands, seeds, List.length_append, ↓reduceIte, List.length_singleton]
            at within
          omega
        simp [short] at seed

theorem rows_take_commands (options : Options) (cluster : MemoryCluster) {performed : Nat}
    (within : performed ≤ (commands options).length) :
    (Command.performAll cluster ((commands options).take performed)).rows =
      seedRows cluster.rows
        (decide (performed = (commands options).length) && options.seeds) := by
  rcases within.lt_or_eq with early | whole
  · have create : ∀ command ∈ (commands options).take performed, command.Creates :=
      fun _ member => creates_of_mem_creations (mem_creations_of_mem_take early member)
    simp [Command.rows_performAll cluster create, early.ne, seedRows]
  · have created := Command.rows_performAll cluster fun _ member =>
      creates_of_mem_creations member
    rw [whole, List.take_length, commands, Command.performAll_append]
    cases options.seeds with
    | false => simpa [seedRows, Command.performAll] using created
    | true => simp [seedRows, Command.performAll, Command.perform, ← created]

theorem advance_outcome (run : SchemaRun) (cluster : MemoryCluster) :
    Advance run cluster (run.outcome cluster).state := by
  rcases run.outcome_effect cluster with ⟨within, whole, same⟩
  generalize run.carriedOut cluster = performed at within whole same
  have created {command : Command} (creates : command.Creates)
      (member : command ∈ (commands run.options).take performed) : command ∈ creations :=
    mem_creations_of_creates (List.mem_of_mem_take member) creates
  refine {
    grows := (Command.grows_performAll cluster _).trans same.grows
    sorted := fun sorted => same.sorted (Command.sorted_performAll sorted _)
    keyspaces := ?_
    tables := ?_
    complete := ?_
    rows := ?_ }
  · intro name member
    rw [same.keyspaces] at member
    exact (Command.mem_performAll.1 member).imp_right (created trivial)
  · intro name member
    rw [same.tables] at member
    exact (Command.mem_performAll.2 member).imp_right (created trivial)
  · intro succeeded command member
    have performed : command ∈ (commands run.options).take performed := by
      rw [whole.mp succeeded, List.take_length]
      exact List.mem_append_left _ member
    exact (Command.present_performAll cluster performed).of_grows same.grows
  · rw [same.rows, rows_take_commands _ _ within]
    congr 2
    exact Bool.eq_iff_iff.mpr (decide_eq_true_iff.trans whole.symm)

/-! ### Histories -/

/-- A cluster that holds names of the schema and no others, in order. -/
structure Partial (cluster : MemoryCluster) : Prop where
  sorted : cluster.Sorted
  keyspaces : ∀ name ∈ cluster.keyspaces, .createKeyspace name ∈ creations
  tables : ∀ name ∈ cluster.tables, .createTable name ∈ creations

theorem partial_empty : Partial {} where
  sorted := { keyspaces := List.Pairwise.nil, tables := List.Pairwise.nil }
  keyspaces _ member := (List.not_mem_nil member).elim
  tables _ member := (List.not_mem_nil member).elim

theorem Advance.partial {run : SchemaRun} {before after : MemoryCluster}
    (advance : Advance run before after) (known : Partial before) : Partial after where
  sorted := advance.sorted known.sorted
  keyspaces name member := (advance.keyspaces name member).elim (known.keyspaces name) id
  tables name member := (advance.tables name member).elim (known.tables name) id

theorem clusterAfter_nil (cluster : MemoryCluster) : clusterAfter cluster [] = cluster :=
  rfl

theorem clusterAfter_cons (cluster : MemoryCluster) (run : SchemaRun) (rest : List SchemaRun) :
    clusterAfter cluster (run :: rest) = clusterAfter (run.outcome cluster).state rest :=
  rfl

theorem clusterAfter_append (cluster : MemoryCluster) (earlier later : List SchemaRun) :
    clusterAfter cluster (earlier ++ later) =
      clusterAfter (clusterAfter cluster earlier) later := by
  simp only [clusterAfter, ClusterRun.clusterAfter, List.map_append, List.foldl_append]

theorem partial_clusterAfter {cluster : MemoryCluster} (known : Partial cluster)
    (runs : List SchemaRun) : Partial (clusterAfter cluster runs) := by
  induction runs generalizing cluster with
  | nil => exact known
  | cons run rest ih => exact ih ((run.advance_outcome cluster).partial known)

theorem grows_clusterAfter (cluster : MemoryCluster) (runs : List SchemaRun) :
    cluster.Grows (clusterAfter cluster runs) := by
  induction runs generalizing cluster with
  | nil => exact .refl cluster
  | cons run rest ih => exact (run.advance_outcome cluster).grows.trans (ih _)

theorem rows_clusterAfter (cluster : MemoryCluster) (runs : List SchemaRun) :
    (clusterAfter cluster runs).rows =
      (addRow Schema.seeded)^[seedings cluster runs] cluster.rows := by
  induction runs generalizing cluster with
  | nil => rfl
  | cons run rest ih =>
      rw [clusterAfter_cons, ih, (run.advance_outcome cluster).rows, seedings, Nat.add_comm,
        Function.iterate_add_apply]
      congr 1
      cases run.succeeds cluster && run.options.seeds <;> rfl

theorem iterate_addRow_nil (table : String) (count : Nat) :
    (addRow table)^[count] [] = if count = 0 then [] else [(table, count)] := by
  induction count with
  | zero => rfl
  | succ count ih =>
      rw [Function.iterate_succ_apply', ih]
      cases count with
      | zero => rfl
      | succ count => simp [addRow]

/-- The names of the tables, in order. -/
def tableNames : List String :=
  ["fannst.account_shortcuts", "fannst.accounts", "fannst.email_shortcuts",
    "fannst.local_domain", "fannst.mailboxes", "fannst.raw_emails"]

theorem createTable_mem_creations (name : String) :
    .createTable name ∈ creations ↔ name ∈ tableNames := by
  have forward : ∀ table ∈ Schema.tables, qualified table ∈ tableNames := by decide +kernel
  have backward : ∀ name ∈ tableNames, ∃ table ∈ Schema.tables, qualified table = name := by
    decide +kernel
  constructor
  · intro member
    rcases List.mem_cons.mp member with impossible | member
    · cases impossible
    · rcases List.mem_map.mp member with ⟨table, found, same⟩
      cases same
      exact forward table found
  · intro member
    rcases backward name member with ⟨table, found, rfl⟩
    exact List.mem_cons_of_mem _ (List.mem_map_of_mem found)

theorem createKeyspace_mem_creations (name : String) :
    .createKeyspace name ∈ creations ↔ name = keyspace := by
  simp [creations]

/-- A cluster that holds names of the schema only, and all of them, holds exactly the schema. -/
theorem Partial.names_eq {cluster : MemoryCluster} (known : Partial cluster)
    (complete : ∀ command ∈ creations, command.Present cluster) :
    cluster.keyspaces = ["fannst"] ∧ cluster.tables = tableNames := by
  constructor
  · refine known.sorted.keyspaces.eq_of_mem_iff (List.pairwise_singleton _ _) fun name => ?_
    rw [List.mem_singleton]
    constructor
    · exact fun member => (createKeyspace_mem_creations name).1 (known.keyspaces name member)
    · rintro rfl
      exact complete (.createKeyspace keyspace) List.mem_cons_self
  · have ordered : Ascending tableNames := by
      unfold Ascending
      decide +kernel
    refine known.sorted.tables.eq_of_mem_iff ordered fun name => ?_
    rw [← createTable_mem_creations]
    exact ⟨known.tables name, complete (.createTable name)⟩

/-- A statement of the schema that may be repeated creates something unless it is there. -/
theorem creates_of_idempotent {options : Options} {statement : Statement}
    (member : statement ∈ statements options) (repeatable : statement.isIdempotent = true) :
    ∃ command, Command.ofChars? statement.text.toList = some command ∧ command.Creates := by
  rcases exists_belongs member with ⟨command, belongs⟩
  refine ⟨command, belongs.spells, ?_⟩
  cases belongs with
  | keyspace => trivial
  | table member => trivial
  | seed chosen solid => cases repeatable

/-- A command that a run performs could be performed again afterwards, and what it creates is
there. -/
theorem ready_present_outcome {run : SchemaRun} {cluster : MemoryCluster} {position : Nat}
    {command : Command} (found : (commands run.options)[position]? = some command)
    (carried : position < run.carriedOut cluster) :
    command.Ready (run.outcome cluster).state ∧ command.Present (run.outcome cluster).state := by
  have same := (run.outcome_effect cluster).performed
  have member : command ∈ (commands run.options).take (run.carriedOut cluster) := by
    refine @List.mem_of_getElem? _ _ position _ ?_
    rw [List.getElem?_take_of_lt carried, found]
  have ready := allReady_commands run.options cluster
  rw [← List.take_append_drop (run.carriedOut cluster) (commands run.options),
    Command.allReady_append] at ready
  exact ⟨(Command.ready_performAll ready.1 member).of_grows same.grows,
    (Command.present_performAll cluster member).of_grows same.grows⟩

/-- What a run created stays, and creating it once more changes nothing. -/
theorem apply_of_carriedOut {earlier later : List SchemaRun} {run : SchemaRun} {position : Nat}
    {statement : Statement} (found : (statements run.options)[position]? = some statement)
    (repeatable : statement.isIdempotent = true)
    (carried : position < run.carriedOut (clusterAfter {} earlier)) :
    (clusterAfter {} (earlier ++ run :: later)).apply statement.text =
      .ok (clusterAfter {} (earlier ++ run :: later)) := by
  rcases creates_of_idempotent (List.mem_of_getElem? found) repeatable with
    ⟨command, spelled, creates⟩
  have performed : (commands run.options)[position]? = some command := by
    have spells := congrArg (fun list => list[position]?) (spells_statements run.options)
    simp only [List.getElem?_map, found, Option.map_some, spelled] at spells
    rcases Option.map_eq_some_iff.mp spells.symm with ⟨_, there, same⟩
    rw [there, same]
  rcases ready_present_outcome performed carried with ⟨ready, present⟩
  have sorted := (partial_clusterAfter partial_empty (earlier ++ run :: later)).sorted
  rw [clusterAfter_append, clusterAfter_cons] at sorted ⊢
  have grows := grows_clusterAfter (run.outcome (clusterAfter {} earlier)).state later
  refine apply_ok_iff.2 ⟨command, spelled, ready.of_grows grows, ?_⟩
  exact Command.perform_of_present sorted creates (present.of_grows grows)

theorem succeeds_of_faultless {run : SchemaRun} (hosts : run.credentials.hosts ≠ [])
    (accepted : run.refusal = none) (faultless : run.faults = []) (cluster : MemoryCluster) :
    run.succeeds cluster = true := by
  have opens : run.toRun.opens = true := ClusterRun.opens_iff.2 ⟨hosts, accepted⟩
  rcases run.toRun.outcome_of_opens opens cluster with
    ⟨position, _, failure, _, _, failed, _⟩ | ⟨_, ended⟩
  · have succeeded : run.session.failureFrom? 0 cluster.connected (statements run.options)
        position = none :=
      Circumstances.failureFrom?_of_ready (spells_statements run.options) faultless
        (allReady_commands run.options cluster.connected) position
    cases succeeded.symm.trans failed
  · rw [succeeds, outcome, ended]
    rfl

theorem settled_of_success {earlier later : List SchemaRun} {run : SchemaRun}
    (succeeded : run.succeeds (clusterAfter {} earlier) = true) :
    (clusterAfter {} (earlier ++ run :: later)).keyspaces = ["fannst"] ∧
      (clusterAfter {} (earlier ++ run :: later)).tables = tableNames := by
  refine (partial_clusterAfter partial_empty _).names_eq fun command member => ?_
  rw [clusterAfter_append, clusterAfter_cons]
  have complete := (run.advance_outcome (clusterAfter {} earlier)).complete succeeded
  exact (complete command member).of_grows (grows_clusterAfter _ later)

/-- What can be relied upon after a history of runs of the schema on a cluster that was empty. -/
structure Restartable (runs : List SchemaRun) : Prop where
  /-- Once a run has succeeded the cluster holds the schema, whatever else was run. -/
  settled : ∀ earlier run later, runs = earlier ++ run :: later →
    run.succeeds (clusterAfter {} earlier) = true →
      (clusterAfter {} runs).keyspaces = ["fannst"] ∧ (clusterAfter {} runs).tables = tableNames
  /-- A run without mishaps succeeds. -/
  resumes : ∀ run : SchemaRun, run.credentials.hosts ≠ [] → run.refusal = none →
    run.faults = [] → run.succeeds (clusterAfter {} runs) = true
  /-- Each run with a seed that succeeded left one row, and there are no other rows. -/
  rows : (clusterAfter {} runs).rows =
    if seedings {} runs = 0 then [] else [("fannst.local_domain", seedings {} runs)]
  /-- A statement that may be repeated changes nothing once a run has carried it out. -/
  repeats : ∀ earlier run later, runs = earlier ++ run :: later →
    ∀ position statement, (statements run.options)[position]? = some statement →
      statement.isIdempotent = true → position < run.carriedOut (clusterAfter {} earlier) →
        (clusterAfter {} runs).apply statement.text = .ok (clusterAfter {} runs)

theorem restartable (runs : List SchemaRun) : Restartable runs where
  settled earlier run later history succeeded := by
    rw [history]
    exact settled_of_success succeeded
  resumes run hosts accepted faultless := succeeds_of_faultless hosts accepted faultless _
  rows := by
    rw [rows_clusterAfter]
    exact iterate_addRow_nil _ _
  repeats earlier run later history position statement found repeatable carried := by
    rw [history]
    exact apply_of_carriedOut found repeatable carried

theorem restartable_after_mishaps :
    let credentials := Credentials.ofHosts ["a"] Credentials.defaultPort
    let refused : SchemaRun := { credentials, options := {}, refusal := some "no" }
    let hanging : SchemaRun :=
      { credentials, options := {}, faults := [{ call := 0, hangs := true }] }
    let usual : SchemaRun := { credentials, options := {} }
    let after := clusterAfter {} [refused, hanging, usual, refused, usual]
    after.keyspaces = ["fannst"] ∧ after.tables = tableNames ∧
      after.rows = [("fannst.local_domain", 2)] := by
  intro credentials refused hanging usual after
  have first := (restartable [refused, hanging]).resumes usual (by decide) rfl rfl
  have second := (restartable [refused, hanging, usual, refused]).resumes usual (by decide) rfl rfl
  have settled := (restartable [refused, hanging, usual, refused, usual]).settled
    [refused, hanging] usual [refused, usual] rfl first
  have rows := (restartable [refused, hanging, usual, refused, usual]).rows
  have seeded : seedings {} [refused, hanging, usual, refused, usual] = 2 := by
    have failed (cluster : MemoryCluster) : refused.succeeds cluster = false := rfl
    have hung (cluster : MemoryCluster) : hanging.succeeds cluster = false := rfl
    have seeds : usual.options.seeds = true := by decide
    simp only [clusterAfter_cons, clusterAfter_nil] at first second
    simp only [seedings, failed, hung, seeds, first, second]
    rfl
  rw [seeded] at rows
  exact ⟨settled.1, settled.2, rows⟩

end SchemaRun

end MailProvision
