import MailProvision.CommandLine.Run
import MailProvision.Proofs.Config.Loading
import MailProvision.Proofs.Schema.Script
import MailProvision.Proofs.Steps.Outcomes

/-!
# The printed script and the run

Printing and running make their statements from the same configuration, each for itself. Read back,
the printed script is what a run hands over to its cluster.
-/

namespace MailProvision

namespace Schema

/-- A script reads back as statements: its pieces are their texts, and the comments beside the
pieces number them and mark the ones that add data again. -/
structure ReadsBack (script : String) (statements : List Statement) : Prop where
  pieces : Script.pieces script = statements.map Statement.text
  beside : Script.pieces script = (Script.annotated script).map Prod.snd
  tells : ∀ index statement, statements[index]? = some statement →
    ∃ told, (Script.annotated script)[index]? = some told ∧ Tells index statement told

theorem readsBack_render (options : Options) :
    ReadsBack (Script.render (statements options)) (statements options) := by
  have mail (statement : Statement) (member : statement ∈ statements options) :
      OfMail statement := ofMail_of_mem member
  generalize statements options = statements at mail
  have told := Script.annotated_renderFrom 0 fun statement member =>
    readable_of_ofMail (mail statement member)
  refine ⟨?_, Script.pieces_eq _, ?_⟩
  · rw [Script.pieces_eq, Script.render, told, List.map_map]
    have second : (Prod.snd ∘ fun item : Statement × Nat =>
        ([Script.comment item.2 item.1], item.1.text)) = Statement.text ∘ Prod.fst := rfl
    rw [second, ← List.map_map, List.zipIdx_map_fst]
  · intro index statement found
    refine ⟨_, ?_, tells_of_ofMail index (mail statement (List.mem_of_getElem? found))⟩
    rw [Script.render, told, List.getElem?_map, List.getElem?_zipIdx, found]
    simp

/-- The pieces of a script that reads back are numbered as the calls of a run are. -/
theorem ReadsBack.numbered {script : String} {statements : List Statement}
    (reads : ReadsBack script statements) :
    numbered 0 statements = (Script.pieces script).zipIdx.map Prod.swap := by
  rw [reads.pieces, Schema.numbered, List.zipIdx_map, List.map_map]
  rfl

/-- A schema step hands the pieces of a script over, in order, and succeeds. -/
structure Executes (script : String) {Cluster : Type}
    (outcome : Outcome (World Cluster) (Halt Error) StepOutcome) : Prop where
  succeeds : ∃ report, outcome.result = .ok (.schema report)
  executions : executions outcome.trace = (Script.pieces script).zipIdx.map Prod.swap

theorem executes_of_accepted {Cluster : Type} {runner : Runner Cluster} {credentials : Credentials}
    {script : String} {world : World Cluster} (reads : ReadsBack script runner.statements)
    (usable : runner.config.database.credentials = .ok credentials)
    (accepted : runner.Accepted credentials world.cluster) :
    Executes script (runner.outcome .schema world) := by
  constructor
  · exact Runner.exists_report_of_accepted usable accepted
  · rw [Runner.outcome_schema_of_usable usable, ← reads.numbered]
    exact (Runner.provision_of_accepted usable accepted).2

/-- The script that is printed for a configuration reads back as its statements, and its pieces are
what a run with that configuration hands over to a cluster that takes every statement. -/
theorem printed_script_is_executed {library : Settings.Library} {tree : FileTree}
    {workingDirectory : Location} {environment : List (String × String)} {path : String}
    {config : Config} {credentials : Credentials}
    (loaded : Config.fromFile library tree workingDirectory environment path = .ok config)
    (usable : config.database.credentials = .ok credentials) :
    ∃ options,
      Config.schemaOptions library tree workingDirectory environment (some path) = .ok options ∧
      let script := Script.render (statements options)
      Command.printScript library tree workingDirectory environment (some path) = .ofText script ∧
        ReadsBack script (statements options) ∧
        ∀ (Cluster : Type) (connector : Connector Cluster) (world : World Cluster),
          Runner.Accepted { config, connector } credentials world.cluster →
            Executes script (Runner.outcome { config, connector } .schema world) := by
  have chosen : Config.schemaOptions library tree workingDirectory environment (some path) =
      .ok config.schema.options := by
    rw [Config.schemaOptions, loaded, map_ok]
  refine ⟨config.schema.options, chosen, ?_, readsBack_render _, ?_⟩
  · rw [Command.printScript, Config.locate]
    simp only [chosen]
  · intro Cluster connector world accepted
    exact executes_of_accepted (readsBack_render _) usable accepted

/-- A domain with everything in it that could end a statement too early. -/
def awkwardDomain : String := "it's; -- a\n';b"

def awkwardFile : FileTree :=
  Config.fileAlone "c.json"
    ("\x7b\"database\": \x7b\"cassandra_hosts\": \"a\", \"cassandra_native\": 9042\x7d, " ++
      "\"schema\": \x7b\"seed_domain\": \"it's; -- a\\n';b\"\x7d\x7d")

theorem exists_config_awkward :
    ∃ config credentials, Config.fromFile .plain awkwardFile [] [] "c.json" = .ok config ∧
      config.database.credentials = .ok credentials ∧
      config.schema.options.seedDomain = some awkwardDomain := by
  generalize loads : Config.fromFile .plain awkwardFile [] [] "c.json" = outcome
  have loaded : (outcome.toOption.map fun config =>
      (config.database.credentials.toOption.isSome, config.schema.options.seedDomain)) =
        some (true, some awkwardDomain) := by
    rw [← loads]
    decide +kernel
  cases outcome with
  | error fault => cases loaded
  | ok config =>
      cases usable : config.database.credentials with
      | error fault =>
          simp [Except.toOption, usable] at loaded
      | ok credentials =>
          have parts := Option.some.inj loaded
          exact ⟨config, credentials, rfl, usable, congrArg Prod.snd parts⟩

theorem seed_mem_statements {options : Options} {domain : String}
    (chosen : options.seedDomain = some domain) (some_text : domain.isEmpty = false) :
    .append "seed_local_domain" (seedText domain) ∈ statements options :=
  List.mem_append_right _ (mem_seedStatements_iff.2 ⟨domain, chosen, some_text, rfl⟩)

theorem printed_script_is_executed_awkward :
    ∃ config credentials, Config.fromFile .plain awkwardFile [] [] "c.json" = .ok config ∧
      config.database.credentials = .ok credentials ∧
      config.schema.options.seedDomain = some awkwardDomain ∧
      ∃ script, Command.printScript .plain awkwardFile [] [] (some "c.json") = .ofText script ∧
        seedText awkwardDomain ∈ Script.pieces script ∧
        ∀ world : World (List String),
          Executes script (Runner.outcome { config, connector := .recording } .schema world) := by
  rcases exists_config_awkward with ⟨config, credentials, loaded, usable, domain⟩
  refine ⟨config, credentials, loaded, usable, domain, ?_⟩
  rcases printed_script_is_executed loaded usable with ⟨options, chosen, printed, reads, executes⟩
  rw [Config.schemaOptions, loaded, map_ok] at chosen
  rw [Except.ok.inj chosen] at domain
  refine ⟨_, printed, ?_, fun world => ?_⟩
  · rw [reads.pieces, ← text_seed "seed_local_domain" awkwardDomain]
    exact List.mem_map_of_mem (seed_mem_statements domain (by decide +kernel))
  · exact executes _ _ world (Runner.accepted_of_recording credentials world.cluster)

end Schema

end MailProvision
