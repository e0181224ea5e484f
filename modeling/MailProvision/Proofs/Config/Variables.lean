import MailProvision.Proofs.Config.Loading
import MailProvision.Proofs.Numeral.Decimal
import MailProvision.Proofs.Settings.Written

/-!
# Variables for texts

What a variable for a text setting makes of a configuration that loads without it. The text of a
variable is first taken for what it looks like, and that is written out again where a text is wanted
(`shown`): a text that looks like a number or a truth value arrives as it is only if it is spelled
in the one way in which such a value is written out (`shown_eq_iff`).
-/

namespace MailProvision

open Settings

namespace Settings.Environment

/-- The text that comes of the text of a variable. -/
def shown (text : String) : String :=
  match content text with
  | .boolean value => Found.boolText value
  | .integer i => toString i
  | .float x => x.toText
  | .nil | .text _ => text

theorem content_ne_nil (text : String) : content text ≠ .nil := by
  unfold content
  split
  · rintro ⟨⟩
  · rintro ⟨⟩
  · split
    · rintro ⟨⟩
    · split <;> rintro ⟨⟩

theorem eq_of_content_text {text read : String} (same : content text = .text read) :
    read = text := by
  unfold content at same
  split at same
  · cases same
  · cases same
  · split at same
    · cases same
    · split at same
      · cases same
      · cases same
        rfl

theorem readText_content (origin : Option Origin) (text : String) :
    Value.readText (.scalar origin (content text)) = .ok (shown text) := by
  unfold shown
  cases same : content text with
  | nil => exact absurd same (content_ne_nil text)
  | boolean value => rfl
  | integer i => rfl
  | float x => rfl
  | text read => exact congrArg Except.ok (eq_of_content_text same)

theorem shown_toString {i : Int} (within : Numeral.isInt64 i = true) :
    shown (toString i) = toString i := by
  rw [shown, content_of_int64? (Numeral.int64?_toString within)]

/-- A text that does not look like a truth value or a number, or that is spelled in the way in which
such a value is written out. -/
def Verbatim (text : String) : Prop :=
  content text = .text text ∨ text = "true" ∨ text = "false" ∨
    (∃ i, Numeral.isInt64 i = true ∧ text = toString i) ∨
    ∃ x, content text = .float x ∧ text = x.toText

theorem shown_eq_iff {text : String} : shown text = text ↔ Verbatim text := by
  constructor
  · intro kept
    unfold shown at kept
    cases same : content text with
    | nil => exact absurd same (content_ne_nil text)
    | boolean value =>
        rw [same] at kept
        cases value with
        | false => exact .inr (.inr (.inl kept.symm))
        | true => exact .inr (.inl kept.symm)
    | integer i =>
        rw [same] at kept
        exact .inr (.inr (.inr (.inl ⟨i, fits_content text i same, kept.symm⟩)))
    | float x =>
        rw [same] at kept
        exact .inr (.inr (.inr (.inr ⟨x, same, kept.symm⟩)))
    | text read => exact .inl (same.trans (congrArg Scalar.text (eq_of_content_text same)))
  · rintro (plain | rfl | rfl | ⟨i, within, rfl⟩ | ⟨x, float, written⟩)
    · rw [shown, plain]
    · decide +kernel
    · decide +kernel
    · exact shown_toString within
    · rw [shown, float]
      exact written.symm

end Settings.Environment

namespace Config

namespace TextKey

/-- The configuration with another text for the setting. -/
def set (text : String) (config : Config) : TextKey → Config
  | hosts => { config with database.hosts := text }
  | username => { config with database.username := text }
  | password => { config with database.password := text }
  | seedDomain => { config with schema.seedDomain := text }
  | country => { config with certificate.subject.country := text }
  | state => { config with certificate.subject.state := text }
  | locality => { config with certificate.subject.locality := text }
  | organization => { config with certificate.subject.organization := text }
  | organizationUnit => { config with certificate.subject.organizationUnit := text }
  | commonName => { config with certificate.subject.commonName := text }
  | email => { config with certificate.subject.email := text }
  | certificatePath => { config with certificate.certificatePath := text }
  | keyPath => { config with certificate.keyPath := text }
  | level => { config with logging.level := text }
  | format => { config with logging.format := text }

variable (key : TextKey) (text : String) (config : Config)

theorem get_set_self : key.get (key.set text config) = some text := by
  cases key <;> rfl

theorem get_set_of_ne {key other : TextKey} (differs : other ≠ key) :
    other.get (key.set text config) = other.get config := by
  cases key <;> cases other <;> first | rfl | exact absurd rfl differs

theorem number_get_set (number : NumberKey) :
    number.get (key.set text config) = number.get config := by
  cases key <;> cases number <;> rfl

theorem name_inj {key other : TextKey} (same : other.name = key.name) : other = key := by
  revert same
  cases key <;> cases other <;> decide

theorem name_ne_number (number : NumberKey) : number.name ≠ key.name := by
  cases key <;> cases number <;> decide

end TextKey

namespace Area

/-- The configuration with the usual settings in the section. -/
def reset (area : Area) (config : Config) : Config :=
  match area with
  | database => { config with database := usual.database }
  | schema => { config with schema := usual.schema }
  | certificate => { config with certificate := usual.certificate }
  | logging => { config with logging := usual.logging }

theorem title_inj {first second : Area} (same : first.title = second.title) : first = second := by
  revert same
  cases first <;> cases second <;> decide

variable {found : Option Value} {config : Config}

theorem takes_set {area : Area} {key : TextKey} (other : area ≠ key.area) (text : String)
    (takes : area.Takes found config) : area.Takes found (key.set text config) := by
  cases key <;> cases area <;> first | exact takes | exact absurd rfl other

theorem takes_reset {area other : Area} (differs : other ≠ area)
    (takes : other.Takes found config) : other.Takes found (area.reset config) := by
  cases area <;> cases other <;> first | exact takes | exact absurd rfl differs

theorem absent_reset {area : Area} (given : area ≠ database) : area.Absent (area.reset config) := by
  cases area
  case database => exact absurd rfl given
  all_goals rfl

theorem text_reads_congr {key : TextKey} {other : Config} (same : key.get other = key.get config)
    (reads : key.Reads found config) : key.Reads found other := by
  unfold TextKey.Reads at reads ⊢
  rw [same]
  exact reads

theorem number_reads_congr {key : NumberKey} {other : Config}
    (same : key.get other = key.get config) (reads : key.Reads found config) :
    key.Reads found other := by
  unfold NumberKey.Reads at reads ⊢
  rw [same]
  exact reads

/-- Setting a text in a section leaves what its other fields give. -/
theorem reads_set {key : TextKey} {before after : String → Option Value} {value : Value}
    {text : String} (reads : key.area.Reads before config)
    (fields : ∀ name, after name = if name = key.name then some value else before name)
    (read : key.read value = .ok (some text)) :
    key.area.Reads after (key.set text config) := by
  constructor
  · intro other own
    rw [fields]
    by_cases same : other = key
    · subst same
      rw [if_pos rfl]
      exact read.trans (congrArg Except.ok (other.get_set_self text config).symm)
    · rw [if_neg fun named => same (TextKey.name_inj named)]
      exact text_reads_congr (TextKey.get_set_of_ne text config same) (reads.1 other own)
  · intro number own
    rw [fields, if_neg (TextKey.name_ne_number key number)]
    exact number_reads_congr (key.number_get_set text config number) (reads.2 number own)

end Area

theorem TextKey.read_content (key : TextKey) (origin : Option Origin) (text : String) :
    key.read (.scalar origin (Environment.content text)) = .ok (some (Environment.shown text)) := by
  have plain := Environment.readText_content origin text
  have given := Environment.content_ne_nil text
  generalize Environment.content text = content at plain given
  cases content with
  | nil => exact absurd rfl given
  | boolean | integer | float | text =>
      unfold TextKey.read
      split
      · exact congrArg (Except.map some) plain
      · exact congrArg (Except.map some) plain

/-- What a variable for a text makes of a configuration that is loaded without it. -/
structure SetsText (library : Library) (tree : FileTree) (workingDirectory : Location)
    (environment : List (String × String)) (path : Option String) (located : String)
    (settings : Value) (config : Config) (key : TextKey) (name text : String) : Prop where
  /-- It sets the text, as it is shown, and nothing else. -/
  sets : (∀ origin items, settings.asTable.2.get? key.area.title ≠ some (.array origin items)) →
    load library tree workingDirectory (environment ++ [(name, text)]) path =
      .ok (key.set (Environment.shown text) config)
  /-- A section that is given as a list has nothing but the text any more. -/
  replaces : (∃ origin items, settings.asTable.2.get? key.area.title = some (.array origin items)) →
    key.area ≠ .database →
    load library tree workingDirectory (environment ++ [(name, text)]) path =
      .ok (key.set (Environment.shown text) (key.area.reset config))
  /-- Without its hosts and its port there is no database section. -/
  loses : (∃ origin items, settings.asTable.2.get? key.area.title = some (.array origin items)) →
    key.area = .database →
    ∃ cause, load library tree workingDirectory (environment ++ [(name, text)]) path =
      .error (.unusable located cause)
  /-- The text arrives as it is if and only if it is spelled as it would be written out. -/
  verbatim : ∀ {after},
    load library tree workingDirectory (environment ++ [(name, text)]) path = .ok after →
      (key.get after = some text ↔ Environment.Verbatim text)

section Load

variable {library : Library} {tree : FileTree} {workingDirectory : Location}
  {environment : List (String × String)} {path : Option String} {located : String}
  {file : Entries} {config : Config} {key : TextKey}
  {name text : String}

theorem sets_of_fresh (wellSpelled : ∀ given ∈ file.keys, Entries.WellSpelled key.area.title given)
    (stands : Environment.key? name = some (key.area.path key.name))
    (fresh : ∀ entry ∈ environment, Environment.key? entry.1 ≠ some (key.area.path key.name)) :
    Entries.Sets key.area.title key.name
      (.scalar (some .environment) (Environment.content text))
      (Entries.collect library.order [file, Environment.layer environment]).asTable.2
      (Entries.collect library.order
        [file, Environment.layer (environment ++ [(name, text)])]).asTable.2 := by
  refine Entries.sets_of_variable key.isSetting ?_ ?_
  · intro given member
    simp only [List.flatten_cons, List.flatten_nil, List.append_nil, Entries.keys,
      List.map_append] at member
    rcases List.mem_append.mp member with inFile | inLayer
    · exact wellSpelled given inFile
    · rcases Environment.exists_of_mem_keys_layer inLayer with ⟨_, _, own⟩
      exact fun _ => .inr (Environment.lower_key own)
  · have new : key.area.path key.name ∉ (Environment.layer environment).keys := by
      intro old
      rcases Environment.exists_of_mem_keys_layer old with ⟨entry, member, own⟩
      exact fresh entry member own
    simp only [Environment.layer_concat, stands, Option.elim_some, Entries.put,
      Entries.alter_of_not_mem new, List.flatten_cons, List.flatten_nil, List.append_nil,
      List.append_assoc]

section Fresh

variable (found : locate tree workingDirectory path = some located)
  (fileRead : File.layer library tree workingDirectory located = .ok file)
  {before : Entries} (sets : Entries.Sets key.area.title key.name
    (.scalar (some .environment) (Environment.content text)) before
    (Entries.collect library.order [file, Environment.layer environment]).asTable.2)
include found fileRead sets

/-- If the fields of the section are those of some configuration, the variable sets its text. -/
theorem load_of_sets
    (others : ∀ area, area ≠ key.area → area.Takes (before.get? area.title) config)
    (own : key.area.Reads (Value.inside (before.get? key.area.title)).get? config) :
    load library tree workingDirectory environment path =
      .ok (key.set (Environment.shown text) config) := by
  refine load_eq_ok_iff.2 ⟨located, _, found, gather_of_layer fileRead environment, ?_⟩
  refine read_collect_iff.2 fun area => ?_
  by_cases same : area = key.area
  · subst same
    rcases sets.own with ⟨origin, fields, record, given⟩
    have reads := Area.reads_set own given (key.read_content (some .environment) text)
    rw [record]
    exact Area.readsAs_of_reads reads
  · have other := sets.others area.title fun same' => same (Area.title_inj same')
    rw [other]
    exact Area.takes_set same _ (others area same)

/-- A database section that was a list has no port once the variable has replaced it. -/
theorem unusable_of_list {origin : Option Origin} {items : List Value}
    (list : before.get? key.area.title = some (.array origin items))
    (database : key.area = .database) :
    ∃ cause,
      load library tree workingDirectory environment path = .error (.unusable located cause) := by
  have result := load_eq found (gather_of_layer fileRead environment)
  generalize outcome : read _ = reading at result
  cases reading with
  | error cause => exact ⟨cause, result⟩
  | ok config =>
      -- If it were read, its port would come from the record that holds nothing but the text.
      have port := (Area.reads_of_takes (read_collect_iff.1 outcome .database)).2 .port rfl
      rcases sets.own with ⟨above, fields, record, given⟩
      have nothing : Entries.get? fields NumberKey.port.name = none := by
        rw [given, if_neg (key.name_ne_number .port), list]
        rfl
      rw [database] at record
      rw [Area.look, record, Option.bind_some, Area.find?_table, nothing] at port
      exact absurd rfl port.1

theorem get_of_load (loaded : load library tree workingDirectory environment path = .ok config) :
    key.get config = some (Environment.shown text) := by
  have readSettings := read_of_load found (gather_of_layer fileRead environment) loaded
  have reads := (Area.reads_of_takes (read_collect_iff.1 readSettings key.area)).1 key rfl
  rcases sets.own with ⟨above, fields, record, given⟩
  rw [Area.look_of_field record ((given key.name).trans (if_pos rfl))] at reads
  exact (Except.ok.inj ((key.read_content _ text).symm.trans reads)).symm

end Fresh

theorem look_eq_inside {area : Area} {settings : Entries}
    (noList : ∀ origin items, settings.get? area.title ≠ some (.array origin items)) :
    area.look settings = (Value.inside (settings.get? area.title)).get? := by
  funext field
  unfold Area.look
  cases record : settings.get? area.title with
  | none => rfl
  | some value =>
      cases value with
      | scalar origin content => rfl
      | array origin items => exact absurd record (noList origin items)
      | table origin fields => exact congrFun (Area.find?_table area origin fields) field

/-- A variable for a text sets it to the text that is shown for its own, and leaves every other
setting as it was, if the section was not a list. -/
theorem variable_arrives (loaded : load library tree workingDirectory environment path = .ok config)
    (found : locate tree workingDirectory path = some located)
    (fileRead : File.layer library tree workingDirectory located = .ok file)
    (wellSpelled : ∀ given ∈ file.keys, Entries.WellSpelled key.area.title given)
    (stands : Environment.key? name = some (key.area.path key.name))
    (fresh : ∀ entry ∈ environment, Environment.key? entry.1 ≠ some (key.area.path key.name)) :
    SetsText library tree workingDirectory environment path located
      (Entries.collect library.order [file, Environment.layer environment]) config key name
      text := by
  have takes :=
    read_collect_iff.1 (read_of_load found (gather_of_layer fileRead environment) loaded)
  have sets := @sets_of_fresh library environment file key name text wellSpelled stands fresh
  constructor
  case sets =>
    intro noList
    refine load_of_sets found fileRead sets (fun area _ => takes area) ?_
    rw [← look_eq_inside noList]
    exact Area.reads_of_takes (takes key.area)
  case replaces =>
    rintro ⟨origin, items, list⟩ given
    refine load_of_sets found fileRead sets
      (fun area other => Area.takes_reset other (takes area)) ?_
    rw [list]
    exact Area.reads_of_absent (Area.absent_reset given)
  case loses =>
    rintro ⟨origin, items, list⟩ database
    exact unusable_of_list found fileRead sets list database
  case verbatim =>
    intro after loadedAfter
    rw [get_of_load found fileRead sets loadedAfter, Option.some.injEq]
    exact Environment.shown_eq_iff

end Load

/-- A password of digits that are written out as they are. -/
theorem variable_arrives_password :
    ∃ config,
      load .plain
        (fileAlone "c.toml" "[database]\ncassandra_hosts = 'a'\ncassandra_native = 9042\n") []
        [("FSMTP__DATABASE__CASSANDRA_PASSWORD", "12345")] (some "c.toml") = .ok config ∧
      config.database.password = some "12345" := by
  generalize files : fileAlone _ _ = tree
  generalize layers : File.layer .plain tree [] "c.toml" = layer
  generalize loads : load .plain tree [] [] (some "c.toml") = outcome
  have succeeds : outcome.toOption.isSome = true := by
    rw [← loads, ← files]
    decide +kernel
  have keys : layer.toOption.map Entries.keys = some ["database"] := by
    rw [← layers, ← files]
    decide +kernel
  have record : (layer.toOption.bind fun file =>
      (Entries.collect .written [file, Environment.layer []]).asTable.2.get? "database").map
        Value.isTable = some true := by
    rw [← layers, ← files]
    decide +kernel
  cases outcome with
  | error fault => cases succeeds
  | ok config =>
      cases layer with
      | error fault => cases keys
      | ok file =>
          have arrives := @variable_arrives .plain tree [] [] (some "c.toml") "c.toml" file config
            .password "FSMTP__DATABASE__CASSANDRA_PASSWORD" "12345" loads rfl layers
            (by
              intro given member _
              rw [Option.some.inj keys] at member
              obtain rfl := List.mem_singleton.mp member
              exact .inl (by decide))
            (by decide +kernel) (fun _ member => (List.not_mem_nil member).elim)
          have loaded := arrives.sets fun origin items list => by
            have noTable := (congrArg (Option.map Value.isTable) list).symm.trans record
            cases noTable
          refine ⟨_, loaded, (arrives.verbatim loaded).2 (.inr (.inr (.inr (.inl ⟨12345, ?_⟩))))⟩
          decide +kernel

/-- A password of digits with zeros in front loses them. -/
theorem password_of_digits_loses_zeros :
    (∃ config,
      load .plain
        (fileAlone "c.toml" "[database]\ncassandra_hosts = 'a'\ncassandra_native = 9042\n") []
        [] (some "c.toml") = .ok config) ∧
    ∃ config,
      load .plain
        (fileAlone "c.toml" "[database]\ncassandra_hosts = 'a'\ncassandra_native = 9042\n") []
        [("FSMTP__DATABASE__CASSANDRA_PASSWORD", "007")] (some "c.toml") = .ok config ∧
      config.database.password = some "7" := by
  generalize without : load _ _ _ [] _ = plain
  generalize loads : load _ _ _ [_] _ = outcome
  have succeeds : plain.toOption.isSome = true := by
    rw [← without]
    decide +kernel
  have password : outcome.toOption.map (fun config => config.database.password) =
      some (some "7") := by
    rw [← loads]
    decide +kernel
  constructor
  · cases plain with
    | error fault => cases succeeds
    | ok config => exact ⟨config, rfl⟩
  · cases outcome with
    | error fault => cases password
    | ok config => exact ⟨config, rfl, Option.some.inj password⟩

end Config

end MailProvision
