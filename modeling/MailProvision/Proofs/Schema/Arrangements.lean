import MailProvision.Proofs.Schema.Reruns

/-!
# The statements of the schema in any order

Statements of the schema are selected in any order, some of them left out and some repeated, and run
on an empty cluster without mishaps. A table needs the keyspace before it and the seed needs the table
of local domains: the run fails at the first position where that is missing, and succeeds if there is
none. What the cluster holds is told by the statements that were carried out (`Contents`), and this
tells whether the next one can be performed (`Belongs.founded_iff_ready`).
-/

namespace MailProvision

namespace MemoryCluster

theorem react_of_unready {cluster : MemoryCluster} {call : Nat} {text : String}
    {command : Command} (limit : Duration)
    (spelled : Command.ofChars? text.toList = some command) (unready : ¬command.Ready cluster) :
    ∃ reason, (cluster.react { call } text).failure? limit = some (.refused [reason]) := by
  have refused : ∃ reason,
      ({ cluster with executed := cluster.executed + 1 } : MemoryCluster).apply text =
        .error reason := by
    cases applied : ({ cluster with executed := cluster.executed + 1 } : MemoryCluster).apply
        text with
    | error reason => exact ⟨reason, rfl⟩
    | ok after =>
        rcases apply_ok_iff.1 applied with ⟨other, same, ready, _⟩
        obtain rfl : other = command := Option.some.inj (same.symm.trans spelled)
        exact absurd (by cases other <;> exact ready) unready
  rcases refused with ⟨reason, refused⟩
  refine ⟨reason, ?_⟩
  simp [react, respond, refused, Reaction.failure?]

end MemoryCluster

namespace Spells

open MemoryCluster

theorem mem_iff {statements : List Statement} {commands : List Command} {command : Command}
    (spells : Spells statements commands) :
    command ∈ commands ↔
      ∃ statement ∈ statements, Command.ofChars? statement.text.toList = some command := by
  rw [← List.mem_map, spells]
  simp

end Spells

namespace Schema

open MemoryCluster

variable {options : Options}

theorem belongs_of_spelled {statement : Statement} {command : Command}
    (member : statement ∈ statements options)
    (spelled : Command.ofChars? statement.text.toList = some command) :
    Belongs options statement command := by
  rcases exists_belongs member with ⟨other, belongs⟩
  obtain rfl : other = command := Option.some.inj (belongs.spells.symm.trans spelled)
  exact belongs

/-- Statements selected from the schema, in some order. -/
def Selected (options : Options) (chosen : List Statement) : Prop :=
  ∀ statement ∈ chosen, statement ∈ statements options

theorem Selected.take {chosen : List Statement} (selected : Selected options chosen)
    (bound : Nat) : Selected options (chosen.take bound) :=
  fun statement member => selected statement (List.mem_of_mem_take member)

theorem Selected.exists_spells {chosen : List Statement} (selected : Selected options chosen) :
    ∃ commands, Spells chosen commands := by
  induction chosen with
  | nil => exact ⟨[], rfl⟩
  | cons statement rest ih =>
      rcases exists_belongs (selected statement List.mem_cons_self) with ⟨command, belongs⟩
      rcases ih fun other member => selected other (List.mem_cons_of_mem _ member) with
        ⟨commands, spells⟩
      exact ⟨command :: commands, Spells.cons_iff.2 ⟨_, _, rfl, belongs.spells, spells⟩⟩

/-! ### What statements build -/

theorem qualified_mem_tableNames {table : Table} (member : table ∈ tables) :
    qualified table ∈ SchemaRun.tableNames :=
  (SchemaRun.createTable_mem_creations _).1 (List.mem_cons_of_mem _ (List.mem_map_of_mem member))

/-- The cluster holds what the statements build when each of them is carried out. -/
structure Contents (options : Options) (carriedOut : List Statement) (cluster : MemoryCluster) :
    Prop where
  keyspaces : cluster.keyspaces =
    if keyspaceStatement options ∈ carriedOut then [keyspace] else []
  tables : cluster.tables = SchemaRun.tableNames.filter fun name =>
    tables.any fun table => qualified table = name ∧ tableStatement table ∈ carriedOut
  rows : cluster.rows =
    if appendCount carriedOut = 0 then [] else [(seeded, appendCount carriedOut)]

section Contents

variable {carriedOut : List Statement} {commands : List Command}

theorem Contents.of_same {cluster other : MemoryCluster}
    (contents : Contents options carriedOut cluster) (same : SameContent cluster other) :
    Contents options carriedOut other where
  keyspaces := same.keyspaces.trans contents.keyspaces
  tables := same.tables.trans contents.tables
  rows := same.rows.trans contents.rows

theorem Contents.mem_keyspaces_iff {cluster : MemoryCluster}
    (contents : Contents options carriedOut cluster) :
    keyspace ∈ cluster.keyspaces ↔ keyspaceStatement options ∈ carriedOut := by
  rw [contents.keyspaces]
  split
  · simp [*]
  · simp [*]

theorem Contents.mem_tables_iff {cluster : MemoryCluster}
    (contents : Contents options carriedOut cluster) {table : Table}
    (member : table ∈ Schema.tables) :
    qualified table ∈ cluster.tables ↔ tableStatement table ∈ carriedOut := by
  have injective : ∀ other ∈ Schema.tables, ∀ table ∈ Schema.tables,
      qualified other = qualified table → other = table := by
    decide +kernel
  simp only [contents.tables, List.mem_filter, qualified_mem_tableNames member, true_and,
    List.any_eq_true, decide_eq_true_eq]
  constructor
  · rintro ⟨other, found, same, built⟩
    rwa [← injective other found table member same]
  · intro built
    exact ⟨table, member, rfl, built⟩

theorem createKeyspace_mem_iff (selected : Selected options carriedOut)
    (spells : Spells carriedOut commands) {name : String} :
    .createKeyspace name ∈ commands ↔
      name = keyspace ∧ keyspaceStatement options ∈ carriedOut := by
  rw [spells.mem_iff]
  constructor
  · rintro ⟨statement, member, spelled⟩
    cases belongs_of_spelled (selected statement member) spelled
    exact ⟨rfl, member⟩
  · rintro ⟨rfl, member⟩
    exact ⟨_, member, (@Belongs.keyspace options).spells⟩

theorem createTable_mem_iff (selected : Selected options carriedOut)
    (spells : Spells carriedOut commands) {name : String} :
    .createTable name ∈ commands ↔
      ∃ table ∈ tables, qualified table = name ∧ tableStatement table ∈ carriedOut := by
  rw [spells.mem_iff]
  constructor
  · rintro ⟨statement, member, spelled⟩
    cases belongs_of_spelled (selected statement member) spelled with
    | table found => exact ⟨_, found, rfl, member⟩
  · rintro ⟨table, found, rfl, member⟩
    exact ⟨_, member, (@Belongs.table options _ found).spells⟩

theorem rows_of_spells (selected : Selected options carriedOut)
    (spells : Spells carriedOut commands) (cluster : MemoryCluster) :
    (Command.performAll cluster commands).rows =
      (addRow seeded)^[appendCount carriedOut] cluster.rows := by
  induction carriedOut generalizing cluster commands with
  | nil =>
      obtain rfl : commands = [] := List.map_eq_nil_iff.mp spells.symm
      rfl
  | cons statement rest ih =>
      rcases Spells.cons_iff.1 spells with ⟨command, others, rfl, spelled, spells⟩
      have later := ih (fun other member => selected other (List.mem_cons_of_mem _ member)) spells
        (command.perform cluster)
      refine later.trans ?_
      cases belongs_of_spelled (selected statement List.mem_cons_self) spelled with
      | keyspace => rfl
      | table found => rfl
      | @seed domain chosen solid =>
          have counted : appendCount (seedStatement domain :: rest) = appendCount rest + 1 :=
            List.countP_cons_of_pos rfl
          rw [counted, Function.iterate_succ_apply]
          rfl

theorem contents_performAll (selected : Selected options carriedOut)
    (spells : Spells carriedOut commands) :
    Contents options carriedOut (Command.performAll {} commands) := by
  have sorted : (Command.performAll {} commands).Sorted :=
    Command.sorted_performAll SchemaRun.partial_empty.sorted commands
  refine { keyspaces := ?_, tables := ?_, rows := ?_ }
  · have holds (name : String) : name ∈ (Command.performAll {} commands).keyspaces ↔
        name = keyspace ∧ keyspaceStatement options ∈ carriedOut := by
      rw [← createKeyspace_mem_iff selected spells]
      constructor
      · intro member
        exact (Command.mem_performAll.1 member).resolve_left List.not_mem_nil
      · exact Command.present_performAll {}
    split
    · rename_i built
      apply sorted.keyspaces.eq_of_mem_iff (List.pairwise_singleton _ _)
      intro name
      simp [holds, built]
    · rename_i missing
      apply List.eq_nil_iff_forall_not_mem.mpr
      intro name member
      exact missing ((holds name).1 member).2
  · have ordered : Ascending SchemaRun.tableNames := by
      unfold Ascending
      decide +kernel
    apply sorted.tables.eq_of_mem_iff (ordered.filter _)
    intro name
    have holds : name ∈ (Command.performAll {} commands).tables ↔
        .createTable name ∈ commands := by
      constructor
      · intro member
        exact (Command.mem_performAll.2 member).resolve_left List.not_mem_nil
      · exact Command.present_performAll {}
    rw [holds, createTable_mem_iff selected spells]
    simp only [List.mem_filter, List.any_eq_true, decide_eq_true_eq]
    constructor
    · rintro ⟨table, found, rfl, built⟩
      exact ⟨qualified_mem_tableNames found, table, found, rfl, built⟩
    · exact And.right
  · rw [rows_of_spells selected spells]
    exact SchemaRun.iterate_addRow_nil _ _

end Contents

/-! ### What statements need -/

/-- What the statement needs stands before it: the keyspace before a table, and the table of local
domains before the seed. -/
structure Founded (options : Options) (before : List Statement) (statement : Statement) : Prop where
  table : statement ∈ tables.map tableStatement → keyspaceStatement options ∈ before
  seed : statement ∈ seedStatements options.seedDomain → tableStatement localDomain ∈ before

/-- What stands at the position of the list, if anything, is founded by what stands before it. -/
def FoundedAt (options : Options) (chosen : List Statement) (position : Nat) : Prop :=
  ∀ statement ∈ chosen[position]?, Founded options (chosen.take position) statement

instance (options : Options) (before : List Statement) (statement : Statement) :
    Decidable (Founded options before statement) :=
  decidable_of_iff
    ((statement ∈ tables.map tableStatement → keyspaceStatement options ∈ before) ∧
      (statement ∈ seedStatements options.seedDomain → tableStatement localDomain ∈ before))
    ⟨fun both => ⟨both.1, both.2⟩, fun founded => ⟨founded.table, founded.seed⟩⟩

instance (options : Options) (chosen : List Statement) (position : Nat) :
    Decidable (FoundedAt options chosen position) :=
  inferInstanceAs (Decidable (∀ statement ∈ chosen[position]?, Founded _ _ statement))

theorem Belongs.founded_iff_ready {before : List Statement} {statement : Statement}
    {command : Command} {cluster : MemoryCluster} (belongs : Belongs options statement command)
    (contents : Contents options before cluster) :
    Founded options before statement ↔ command.Ready cluster := by
  have noTable {statement : Statement} (other : ∀ name,
      Command.ofChars? statement.text.toList ≠ some (.createTable name)) :
      statement ∉ tables.map tableStatement := by
    intro listed
    rcases List.mem_map.mp listed with ⟨table, member, rfl⟩
    exact other _ (@Belongs.table options _ member).spells
  have noSeed {statement : Statement} (repeatable : statement.repetition = .idempotent) :
      statement ∉ seedStatements options.seedDomain := by
    intro listed
    rcases mem_seedStatements_iff.1 listed with ⟨domain, _, _, rfl⟩
    cases repeatable
  cases belongs with
  | keyspace =>
      refine ⟨fun _ => trivial, fun _ => ⟨?_, fun listed => absurd listed (noSeed rfl)⟩⟩
      intro listed
      refine absurd listed (noTable ?_)
      simp [(@Belongs.keyspace options).spells]
  | @table table member =>
      rw [Command.Ready, keyspaceOf_qualified member, contents.mem_keyspaces_iff]
      constructor
      · intro founded
        exact founded.table (List.mem_map_of_mem member)
      · intro built
        exact ⟨fun _ => built, fun listed => absurd listed (noSeed rfl)⟩
  | @seed domain chosen solid =>
      rw [Command.Ready, seeded, contents.mem_tables_iff (by decide +kernel)]
      constructor
      · intro founded
        exact founded.seed (mem_seedStatements_iff.2 ⟨domain, chosen, solid, rfl⟩)
      · intro built
        refine ⟨fun listed => absurd listed (noTable ?_), fun _ => built⟩
        simp [(Belongs.seed chosen solid).spells]

/-! ### Runs -/

/-- A run of selected statements. -/
def arrangement (circumstances : Circumstances) (chosen : List Statement) : ClusterRun :=
  { circumstances with statements := chosen }

section Runs

variable {circumstances : Circumstances} {chosen : List Statement}

/-- Where all calls before it succeed, a call succeeds if its statement is founded and is refused
otherwise. -/
theorem failure?_of_before (faultless : circumstances.faults = [])
    (selected : Selected options chosen) {position : Nat} {statement : Statement}
    (found : chosen[position]? = some statement)
    (before : ∀ earlier < position,
      circumstances.session.failure? (connected {}) chosen earlier = none) :
    (Founded options (chosen.take position) statement ∧
      circumstances.session.failure? (connected {}) chosen position = none) ∨
    (¬Founded options (chosen.take position) statement ∧
      ∃ reason, circumstances.session.failure? (connected {}) chosen position =
        some (.refused [reason])) := by
  rcases selected.exists_spells with ⟨commands, spells⟩
  rcases Circumstances.stateAfter_take_of_success spells before with ⟨count, reached⟩
  rcases exists_belongs (selected statement (List.mem_of_getElem? found)) with
    ⟨command, belongs⟩
  have opened : SameContent {} (connected {}) := ⟨rfl, rfl, rfl⟩
  have contents : Contents options (chosen.take position)
      { Command.performAll (connected {}) (commands.take position) with executed := count } :=
    (contents_performAll (selected.take position) (spells.take position)).of_same
      ((opened.performAll _).trans ⟨rfl, rfl, rfl⟩)
  have called : circumstances.session.failure? (connected {}) chosen position =
      (MemoryCluster.react
        { Command.performAll (connected {}) (commands.take position) with executed := count }
        { call := position } statement.text).failure? circumstances.limit := by
    rw [Session.failure?, Session.failureFrom?, found, Option.bind_some, reached,
      Circumstances.execute_of_faultless faultless, Nat.zero_add]
    rfl
  rw [called, belongs.founded_iff_ready contents]
  by_cases ready : command.Ready
      { Command.performAll (connected {}) (commands.take position) with executed := count }
  · exact .inl ⟨ready, react_of_ready _ belongs.spells ready⟩
  · exact .inr ⟨ready, react_of_unready _ belongs.spells ready⟩

/-- The run goes to the end and everything is founded, or it halts at the first position that is
not. -/
theorem arrangement_cases (opens : circumstances.opens = true)
    (faultless : circumstances.faults = []) (selected : Selected options chosen) :
    ((∀ position, FoundedAt options chosen position) ∧
      ((arrangement circumstances chosen).outcome {}).result =
        .ok { executed := chosen.length, appended := appendCount chosen } ∧
      Contents options chosen ((arrangement circumstances chosen).outcome {}).state) ∨
    ∃ position statement reason, (∀ earlier < position, FoundedAt options chosen earlier) ∧
      chosen[position]? = some statement ∧ ¬FoundedAt options chosen position ∧
      ((arrangement circumstances chosen).outcome {}).result =
        .error (.statement position statement.text reason) ∧
      Contents options (chosen.take position)
        ((arrangement circumstances chosen).outcome {}).state := by
  have foundedAt {position : Nat} (before : ∀ earlier ≤ position,
      circumstances.session.failure? (connected {}) chosen earlier = none) :
      FoundedAt options chosen position := by
    intro statement found
    rcases failure?_of_before faultless selected found fun earlier below =>
      before earlier below.le with ⟨founded, _⟩ | ⟨_, reason, failed⟩
    · exact founded
    · rw [before position le_rfl] at failed
      cases failed
  rcases selected.exists_spells with ⟨commands, spells⟩
  rcases (arrangement circumstances chosen).outcome_of_opens opens {} with
    ⟨position, statement, failure, found, before, failed, ended⟩ | ⟨succeeded, ended⟩
  · right
    rcases failure?_of_before faultless selected found before with
      ⟨_, succeeded⟩ | ⟨unfounded, reason, refused⟩
    · cases succeeded.symm.trans failed
    · obtain rfl : failure = .refused [reason] := Option.some.inj (failed.symm.trans refused)
      rcases Circumstances.stateAfter_of_failure spells before found failed with
        ⟨count, reached⟩
      refine ⟨position, statement, reason, ?_, found, ?_, ?_, ?_⟩
      · intro earlier below
        exact foundedAt fun other within => before other (lt_of_le_of_lt within below)
      · exact fun founded => unfounded (founded statement found)
      · rw [ended]
        rfl
      · rw [ended, ClusterRun.during]
        refine Eq.mpr (congrArg (fun state => Contents _ _ state.released) reached) ?_
        exact (contents_performAll (selected.take position) (spells.take position)).of_same
          (.session {} _ count)
  · left
    refine ⟨fun position => foundedAt fun other _ => succeeded other, ?_, ?_⟩
    · rw [ended]
      rfl
    · rcases Circumstances.stateAfter_of_success spells fun position _ => succeeded position with
        ⟨count, reached⟩
      rw [ended, ClusterRun.during]
      refine Eq.mpr (congrArg (fun state => Contents _ _ state.released) reached) ?_
      exact (contents_performAll selected spells).of_same (.session {} commands count)

/-- The order in which the schema is declared is one of those that work. -/
theorem foundedAt_statements (options : Options) (position : Nat) :
    FoundedAt options (statements options) position := by
  have selected : Selected options (statements options) := fun _ member => member
  let run : SchemaRun := { credentials := .ofHosts ["a"] Credentials.defaultPort, options }
  have hosts : run.credentials.hosts ≠ [] := by simp [run, Credentials.ofHosts]
  have asDeclared : run.toRun = arrangement run.toRun.toCircumstances (statements options) := rfl
  have opens : run.toRun.opens = true := ClusterRun.opens_iff.2 ⟨hosts, rfl⟩
  have succeeds := SchemaRun.succeeds_of_faultless hosts rfl rfl {}
  rw [SchemaRun.succeeds, SchemaRun.outcome, asDeclared] at succeeds
  rcases arrangement_cases opens rfl selected with ⟨founded, _⟩ | ⟨_, _, _, _, _, _, failed, _⟩
  · exact founded position
  · rw [failed] at succeeds
    cases succeeds

end Runs

/-- What a run of selected statements on an empty cluster comes to. -/
structure FollowsOrder (options : Options) (chosen : List Statement)
    (outcome : Outcome MemoryCluster ProvisionError Report) : Prop where
  succeeds_iff : outcome.result.isOk = true ↔ ∀ position, FoundedAt options chosen position
  complete : outcome.result.isOk = true → Contents options chosen outcome.state
  /-- The first position that is not founded is where the run fails, and only what stands before it
  was carried out. -/
  halts : ∀ position, (∀ earlier < position, FoundedAt options chosen earlier) →
    ¬FoundedAt options chosen position →
      ∃ statement reason, chosen[position]? = some statement ∧
        outcome.result = .error (.statement position statement.text reason) ∧
        Contents options (chosen.take position) outcome.state

/-- Which selections from the schema work in which order, with repetitions and omissions. -/
theorem order_decides (options : Options) (indices : List (Fin (statements options).length))
    {circumstances : Circumstances} (opens : circumstances.opens = true)
    (faultless : circumstances.faults = []) :
    FollowsOrder options (indices.map (statements options).get)
        ((arrangement circumstances (indices.map (statements options).get)).outcome {}) ∧
      ∀ position, FoundedAt options (statements options) position := by
  have selected : Selected options (indices.map (statements options).get) := by
    intro statement member
    rcases List.mem_map.mp member with ⟨index, _, rfl⟩
    exact List.get_mem _ index
  refine ⟨?_, foundedAt_statements options⟩
  rcases arrangement_cases opens faultless selected with
    ⟨founded, succeeded, contents⟩ | ⟨position, statement, reason, before, found, unfounded,
      failed, contents⟩
  · refine { succeeds_iff := ?_, complete := fun _ => contents, halts := ?_ }
    · simp [succeeded, founded, Except.isOk, Except.toBool]
    · intro position _ unfounded
      exact absurd (founded position) unfounded
  · refine { succeeds_iff := ?_, complete := ?_, halts := ?_ }
    · rw [failed]
      constructor
      · intro impossible
        cases impossible
      · intro founded
        exact absurd (founded position) unfounded
    · rw [failed]
      intro impossible
      cases impossible
    · intro other earlier first
      obtain rfl : other = position := by
        rcases Nat.lt_trichotomy other position with less | same | more
        · exact absurd (before other less) first
        · exact same
        · exact absurd (earlier position more) unfounded
      exact ⟨statement, reason, found, failed, contents⟩

/-- With the seed before its table the run ends with the keyspace alone. -/
theorem order_decides_seed_first :
    let circumstances : Circumstances :=
      { credentials := .ofHosts ["a"] Credentials.defaultPort }
    let indices : List (Fin (statements {}).length) :=
      [⟨0, by decide +kernel⟩, ⟨7, by decide +kernel⟩, ⟨3, by decide +kernel⟩]
    let outcome := (arrangement circumstances (indices.map (statements {}).get)).outcome {}
    (∃ text reason, outcome.result = .error (.statement 1 text reason)) ∧
      outcome.state.keyspaces = ["fannst"] ∧ outcome.state.tables = [] ∧
      outcome.state.rows = [] := by
  intro circumstances indices outcome
  rcases @order_decides {} indices circumstances (by decide) rfl with ⟨follows, _⟩
  rcases follows.halts 1 (by decide +kernel) (by decide +kernel) with
    ⟨statement, reason, _, failed, contents⟩
  refine ⟨⟨_, _, failed⟩, ?_, ?_, ?_⟩
  · refine contents.keyspaces.trans ?_
    decide +kernel
  · refine contents.tables.trans ?_
    decide +kernel
  · refine contents.rows.trans ?_
    decide +kernel

end Schema

end MailProvision
