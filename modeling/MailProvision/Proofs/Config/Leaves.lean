import MailProvision.Proofs.Config.Numbers
import MailProvision.Proofs.Config.Variables
import MailProvision.Proofs.Settings.Kept

/-!
# The sources of a setting

Each setting of a configuration has its own sources: the variable that names it, or else what the
file gives under its key, or else its usual value. If the file leads into the sections by their
titles and the variables name different settings, no other source bears on a setting, and so a
configuration that is loaded follows them setting by setting (`layered_per_key`).
-/

namespace MailProvision

open Settings

namespace Settings.Environment

/-- Whether the name of a variable starts with the prefix, in any case. -/
def hasPrefix (entry : String × String) : Bool :=
  namePrefix.isPrefixOf (entry.1.toList.map Text.lowerChar)

/-- Variables without the prefix are no settings. -/
theorem layer_filter (environment : List (String × String)) :
    layer (environment.filter hasPrefix) = layer environment := by
  induction environment using List.reverseRecOn with
  | nil => rfl
  | append_singleton others last ih =>
      rcases last with ⟨name, text⟩
      rw [List.filter_append, layer_concat others]
      by_cases own : hasPrefix (name, text) = true
      · rw [List.filter_cons_of_pos own, List.filter_nil, layer_concat, ih]
      · have foreign : key? name = none := if_neg own
        rw [List.filter_cons_of_neg own, List.filter_nil, List.append_nil, ih, foreign]
        rfl

end Settings.Environment

namespace Config

/-- A setting of the configuration. -/
inductive Leaf where
  | text (key : TextKey)
  | number (key : NumberKey)
deriving DecidableEq

namespace Leaf

/-- The section of the setting. -/
def area : Leaf → Area
  | text key => key.area
  | number key => key.area

/-- The key of the setting in its section. -/
def name : Leaf → String
  | text key => key.name
  | number key => key.name

/-- The path that a variable spells for the setting. -/
def path (leaf : Leaf) : String :=
  leaf.area.path leaf.name

/-- Whether the setting has no usual value. -/
def required : Leaf → Bool
  | text .hosts | number .port => true
  | _ => false

/-- Two configurations have the same setting. -/
def Agree (leaf : Leaf) (first second : Config) : Prop :=
  match leaf with
  | text key => key.get first = key.get second
  | number key => key.get first = key.get second

/-- In the configuration the setting is what its reader makes of the value. -/
def TakenFrom (leaf : Leaf) (value : Value) (config : Config) : Prop :=
  match leaf with
  | text key => key.read value = .ok (key.get config)
  | number key => key.width.read value = .ok (key.get config)

/-- No variable names the setting. -/
def Unset (leaf : Leaf) (environment : List (String × String)) : Prop :=
  ∀ entry ∈ environment, Environment.key? entry.1 ≠ some leaf.path

/-- The setting comes from its own sources: its variable first, then the file, then its usual
value. -/
structure Follows (leaf : Leaf) (file : Entries) (environment : List (String × String))
    (config : Config) : Prop where
  set : ∀ {name text}, (name, text) ∈ environment →
    Environment.key? name = some leaf.path →
    leaf.TakenFrom (.scalar (some .environment) (Environment.content text)) config
  written : leaf.Unset environment → ∀ {value}, leaf.area.look file leaf.name = some value →
    leaf.TakenFrom value config
  usual : leaf.Unset environment → leaf.area.look file leaf.name = none →
    leaf.required = false ∧ leaf.Agree config Config.usual

end Leaf

/-- The settings among the variables name different settings of the configuration, or else lead past
its sections. -/
structure NameLeaves (environment : List (String × String)) : Prop where
  leaf : ∀ entry ∈ environment, ∀ key, Environment.key? entry.1 = some key →
    (∃ leaf : Leaf, key = leaf.path) ∨
      ∀ area : Area, Value.landing (Value.landing key) ≠ area.title
  distinct : ∀ first ∈ environment, ∀ second ∈ environment, ∀ leaf : Leaf,
    Environment.key? first.1 = some leaf.path → Environment.key? second.1 = some leaf.path →
    first = second

/-- What comes of a file and the variables, setting by setting. -/
structure LayeredPerKey (library : Library) (tree : FileTree) (workingDirectory : Location)
    (path : String) (file : Entries) : Prop where
  /-- Each setting comes from its own sources. -/
  sources : ∀ {environment config}, NameLeaves environment →
    fromFile library tree workingDirectory environment path = .ok config →
    ∀ leaf : Leaf, leaf.Follows file environment config
  /-- What one variable changes is its own setting, and nothing else. -/
  others : ∀ {before after config changed name}, NameLeaves before → NameLeaves after →
    before.filter (fun entry => entry.1 ≠ name) = after.filter (fun entry => entry.1 ≠ name) →
    fromFile library tree workingDirectory before path = .ok config →
    fromFile library tree workingDirectory after path = .ok changed →
    ∀ leaf : Leaf, Environment.key? name ≠ some leaf.path → leaf.Agree config changed
  /-- Variables without the prefix, in any case, do not matter. -/
  foreign : ∀ environment, fromFile library tree workingDirectory environment path =
    fromFile library tree workingDirectory
      (environment.filter Environment.hasPrefix) path
  /-- A setting without a usual value has to be given. -/
  required : ∀ {environment}, NameLeaves environment → ∀ leaf : Leaf, leaf.required = true →
    leaf.Unset environment → leaf.area.look file leaf.name = none →
    ∃ fault, fromFile library tree workingDirectory environment path = .error fault ∧
      (Error.config fault).code = "CONFIG_ERROR"

namespace Leaf

variable {leaf : Leaf} {config : Config} {value : Value}

theorem isSetting (leaf : Leaf) : Entries.IsSetting leaf.area.title leaf.name leaf.path := by
  cases leaf with
  | text key => exact key.isSetting
  | number key => exact key.isSetting

theorem agree_of_takenFrom {other : Config} (first : leaf.TakenFrom value config)
    (second : leaf.TakenFrom value other) : leaf.Agree config other := by
  cases leaf with
  | text key => exact Except.ok.inj (first.symm.trans second)
  | number key => exact Except.ok.inj (first.symm.trans second)

theorem agree_of_usual {other : Config} (first : leaf.Agree config Config.usual)
    (second : leaf.Agree other Config.usual) : leaf.Agree config other := by
  cases leaf with
  | text key => exact Eq.trans first (Eq.symm second)
  | number key => exact Eq.trans first (Eq.symm second)

theorem not_takenFrom_table {origin : Option Origin} {entries : Entries} :
    ¬leaf.TakenFrom (.table origin entries) config := by
  cases leaf with
  | text key => cases key <;> rintro ⟨⟩
  | number key => cases key <;> rintro ⟨⟩

/-- A value that was copied gives the setting no other way than the value itself. -/
theorem takenFrom_of_overlay (taken : leaf.TakenFrom (value.overlay none) config) :
    leaf.TakenFrom value config := by
  rcases value.overlay_none_cases with ⟨_, _, _, _, _, copied⟩ | copied
  · rw [copied] at taken
    exact absurd taken not_takenFrom_table
  · rwa [copied] at taken

/-- A value whose entries are in another order gives the setting no other way either. -/
theorem takenFrom_of_arrange {order : Order} (taken : leaf.TakenFrom (value.arrange order) config) :
    leaf.TakenFrom value config := by
  rcases value.arrange_cases order with ⟨_, _, _, _, arranged⟩ | arranged
  · rw [arranged] at taken
    exact absurd taken not_takenFrom_table
  · rwa [arranged] at taken

/-- What the settings give for the setting, and what it becomes. -/
def Reads (leaf : Leaf) (found : Option Value) (config : Config) : Prop :=
  match leaf with
  | text key => key.Reads found config
  | number key => key.Reads found config

theorem takenFrom_of_reads (fits : value.Fits) (reads : leaf.Reads (some value) config) :
    leaf.TakenFrom value config := by
  cases leaf with
  | text key => exact reads
  | number key =>
      rcases reads with ⟨n, read, kept⟩
      rcases (Width.read_eq_ok_iff fits).1 read with ⟨origin, content, rfl, arrives⟩
      have within := arrives.within fits.content
      rw [Width.wrap_eq within.1 within.2] at kept
      exact read.trans (congrArg Except.ok kept.symm)

theorem usual_of_reads (reads : leaf.Reads none config) :
    leaf.required = false ∧ leaf.Agree config Config.usual := by
  rcases leaf with key | key
  all_goals
    refine ⟨?_, reads.2⟩
    have given := reads.1
    revert given
    cases key <;> simp [required]

/-! ### Which variables bear on a setting -/

theorem apart_path {other : Leaf} (differs : other.path ≠ leaf.path) :
    Entries.Apart leaf.area.title leaf.name other.path := by
  intro leads
  have isSetting := other.isSetting
  have lands : Value.landing other.path = other.area.title := by
    rw [Value.landing, isSetting.parsed]
  rw [lands, isSetting.isSection.landing_eq] at leads
  refine ⟨isSetting.smallPath, other.name, [], leads ▸ isSetting.parsed, fun same => differs ?_⟩
  rw [path, path, Area.path, Area.path, leads, same]

variable {environment : List (String × String)} (names : NameLeaves environment)
include names

theorem apart_of_stands {entry : String × String} (member : entry ∈ environment) {key : String}
    (stands : Environment.key? entry.1 = some key) (differs : key ≠ leaf.path) :
    Entries.Apart leaf.area.title leaf.name key := by
  rcases names.leaf entry member key stands with ⟨other, rfl⟩ | past
  · exact apart_path differs
  · exact fun leads => absurd leads (past leaf.area)

theorem silent_of_unset (unset : leaf.Unset environment) :
    Environment.Silent leaf.area.title leaf.name environment := by
  intro entry member key stands
  refine apart_of_stands names member stands ?_
  rintro rfl
  exact unset entry member stands

theorem sole_of_stands {variableName text : String} (given : (variableName, text) ∈ environment)
    (stands : Environment.key? variableName = some leaf.path) :
    Environment.Sole leaf.area.title leaf.name leaf.path variableName text environment where
  given := given
  stands := stands
  alone entry member differs key own := by
    refine apart_of_stands names member own ?_
    rintro rfl
    exact differs (names.distinct entry member _ given leaf own stands)

/-! ### What is found for a setting -/

variable {order : Order} {file : Entries} (spelled : Entries.Spelled leaf.area.title file)
include spelled

theorem look_of_set {variableName text : String} (given : (variableName, text) ∈ environment)
    (stands : Environment.key? variableName = some leaf.path) :
    leaf.area.look (Entries.collect order [file, Environment.layer environment]).asTable.2
        leaf.name =
      some (.scalar (some .environment) (Environment.content text)) :=
  Area.look_of_variable leaf.isSetting (spelled.wellSpelled leaf.isSetting.isSection)
    (sole_of_stands names given stands)

theorem look_of_unset (distinct : Entries.Distinct leaf.area.title file)
    (unset : leaf.Unset environment) :
    leaf.area.look (Entries.collect order [file, Environment.layer environment]).asTable.2
        leaf.name =
      (((leaf.area.look file leaf.name).map (Value.overlay · none)).map fun value =>
        value.arrange ((order.below leaf.area.title).below leaf.name)).map
          (Value.overlay · none) := by
  have isSection := leaf.isSetting.isSection
  have apart := Environment.apart_of_silent (silent_of_unset names unset)
  rw [look_eq_inside (Entries.collect_ne_array isSection spelled distinct apart),
    look_eq_inside spelled.nested, Entries.field_of_file isSection spelled distinct apart]

end Leaf

/-! ### Loading -/

theorem distinct_of_fits {file : Entries} (fits : file.Fits) (title : String) :
    Entries.Distinct title file where
  root := fits.distinct
  inner := by
    cases found : file.get? title with
    | none => exact List.nodup_nil
    | some value => exact (Entries.fits_get? fits.values title value found).asTable.distinct

section Load

variable {library : Library} {tree : FileTree} {workingDirectory : Location}
  {environment : List (String × String)} {path : String} {file : Entries} {config : Config}

theorem fromFile_eq_ok_iff :
    fromFile library tree workingDirectory environment path = .ok config ↔
      ∃ settings, gather library tree workingDirectory environment path = .ok settings ∧
        read settings = .ok config := by
  simp only [fromFile, bind_eq_ok_iff, mapError_eq_ok_iff]

variable (fileRead : File.layer library tree workingDirectory path = .ok file)
include fileRead

theorem reads_of_fromFile
    (loaded : fromFile library tree workingDirectory environment path = .ok config)
    (leaf : Leaf) :
    leaf.Reads (leaf.area.look
      (Entries.collect library.order [file, Environment.layer environment]).asTable.2 leaf.name)
      config := by
  have gathered := gather_of_layer fileRead environment
  rcases fromFile_eq_ok_iff.1 loaded with ⟨settings, also, readSettings⟩
  obtain rfl := Except.ok.inj (gathered.symm.trans also)
  have reads := Area.reads_of_takes (read_collect_iff.1 readSettings leaf.area)
  cases leaf with
  | text key => exact reads.1 key rfl
  | number key => exact reads.2 key rfl

theorem takenFrom_of_look
    (loaded : fromFile library tree workingDirectory environment path = .ok config)
    {leaf : Leaf} {value : Value}
    (found : leaf.area.look
      (Entries.collect library.order [file, Environment.layer environment]).asTable.2 leaf.name =
        some value) : leaf.TakenFrom value config := by
  have reads := reads_of_fromFile fileRead loaded leaf
  rw [found] at reads
  refine Leaf.takenFrom_of_reads ?_ reads
  have fits := fits_gather (gather_of_layer fileRead environment)
  rcases Option.bind_eq_some_iff.mp found with ⟨record, recordFound, inRecord⟩
  exact Area.fits_find? (Entries.fits_get? fits.asTable.values _ _ recordFound) _ _ inRecord

theorem follows_of_fromFile {leaf : Leaf} (spelled : Entries.Spelled leaf.area.title file)
    (names : NameLeaves environment)
    (loaded : fromFile library tree workingDirectory environment path = .ok config) :
    leaf.Follows file environment config := by
  have distinct := distinct_of_fits (File.fits_layer fileRead) leaf.area.title
  constructor
  case set =>
    intro name text given stands
    exact takenFrom_of_look fileRead loaded (Leaf.look_of_set names spelled given stands)
  case written =>
    intro unset value found
    have copied :=
      @Leaf.look_of_unset leaf environment names library.order file spelled distinct unset
    rw [found] at copied
    have taken := Leaf.takenFrom_of_overlay (takenFrom_of_look fileRead loaded copied)
    exact Leaf.takenFrom_of_overlay (Leaf.takenFrom_of_arrange taken)
  case usual =>
    intro unset missing
    have reads := reads_of_fromFile fileRead loaded leaf
    rw [Leaf.look_of_unset names spelled distinct unset, missing] at reads
    exact Leaf.usual_of_reads reads

end Load

/-- Two configurations that follow the same sources have the same setting. -/
theorem Leaf.Follows.agree {leaf : Leaf} {file : Entries} {before after : List (String × String)}
    {config changed : Config} (first : leaf.Follows file before config)
    (second : leaf.Follows file after changed)
    (same : ∀ entry, Environment.key? entry.1 = some leaf.path →
      (entry ∈ before ↔ entry ∈ after)) : leaf.Agree config changed := by
  by_cases set : ∃ entry ∈ before, Environment.key? entry.1 = some leaf.path
  · rcases set with ⟨entry, given, stands⟩
    exact agree_of_takenFrom (first.set given stands)
      (second.set ((same entry stands).1 given) stands)
  · have unset : leaf.Unset before := fun entry given stands => set ⟨entry, given, stands⟩
    have unsetToo : leaf.Unset after :=
      fun entry given stands => set ⟨entry, (same entry stands).2 given, stands⟩
    cases found : leaf.area.look file leaf.name with
    | some value =>
        exact agree_of_takenFrom (first.written unset found) (second.written unsetToo found)
    | none => exact agree_of_usual (first.usual unset found).2 (second.usual unsetToo found).2

/-- The configuration in a file that leads into the sections by their titles is layered setting by
setting, whatever the variables for other settings are. -/
theorem layered_per_key {library : Library} {tree : FileTree} {workingDirectory : Location}
    {path : String} {file : Entries}
    (fileRead : File.layer library tree workingDirectory path = .ok file)
    (spelled : ∀ area : Area, Entries.Spelled area.title file) :
    LayeredPerKey library tree workingDirectory path file := by
  have sources {environment : List (String × String)} {config : Config}
      (names : NameLeaves environment)
      (loaded : fromFile library tree workingDirectory environment path = .ok config)
      (leaf : Leaf) :
      leaf.Follows file environment config :=
    follows_of_fromFile fileRead (spelled leaf.area) names loaded
  constructor
  case sources => exact sources
  case others =>
    intro before after config changed name namesBefore namesAfter rest loaded loadedAfter leaf other
    refine (sources namesBefore loaded leaf).agree (sources namesAfter loadedAfter leaf) ?_
    intro entry stands
    have kept : (entry.1 ≠ name) := by
      rintro rfl
      exact other stands
    have among (environment : List (String × String)) :
        entry ∈ environment ↔ entry ∈ environment.filter (fun entry => entry.1 ≠ name) := by
      simp [kept]
    rw [among before, rest, ← among after]
  case foreign =>
    intro environment
    simp only [fromFile, gather, Environment.layer_filter]
  case required =>
    intro environment names leaf needed unset missing
    cases loaded : fromFile library tree workingDirectory environment path with
    | error fault => exact ⟨fault, rfl, rfl⟩
    | ok config =>
        have usual := ((sources names loaded leaf).usual unset missing).1
        rw [usual] at needed
        cases needed

/-- A section that a variable brings into being has its other settings as usual. -/
theorem layered_per_key_seedDomain :
    ∃ config,
      fromFile .plain
        (fileAlone "c.toml" "[database]\ncassandra_hosts = 'a'\ncassandra_native = 9042\n")
        [] [("FSMTP__SCHEMA__SEED_DOMAIN", "b"), ("HOME", "/")] "c.toml" = .ok config ∧
      config.schema.seedDomain = some "b" ∧ config.schema.replicationFactor = 3 := by
  generalize files : fileAlone _ _ = tree
  generalize given : _ :: _ = environment
  generalize layers : File.layer .plain tree [] "c.toml" = layer
  generalize loads : fromFile .plain tree [] environment "c.toml" = outcome
  have succeeds : outcome.toOption.isSome = true := by
    rw [← loads, ← files, ← given]
    decide +kernel
  have spelled (area : Area) : ∀ file ∈ layer.toOption, Entries.Spelled area.title file := by
    rw [← layers, ← files]
    cases area <;> decide +kernel
  have noFactor : ∀ file ∈ layer.toOption, (file.get? Area.schema.title).isNone = true := by
    rw [← layers, ← files]
    decide +kernel
  have own : ∀ entry ∈ environment,
      Environment.key? entry.1 = some (Leaf.path (.text .seedDomain)) ∨
        Environment.key? entry.1 = none := by
    rw [← given]
    decide +kernel
  have single : ∀ first ∈ environment, ∀ second ∈ environment,
      Environment.key? first.1 = Environment.key? second.1 → first = second := by
    rw [← given]
    decide +kernel
  have unset : Leaf.Unset (.number .replicationFactor) environment := by
    unfold Leaf.Unset
    rw [← given]
    decide +kernel
  have names : NameLeaves environment := by
    constructor
    · intro entry member key stands
      rcases own entry member with seed | foreign
      · exact .inl ⟨_, Option.some.inj (stands.symm.trans seed)⟩
      · cases stands.symm.trans foreign
    · intro first memberFirst second memberSecond leaf standsFirst standsSecond
      exact single first memberFirst second memberSecond (standsFirst.trans standsSecond.symm)
  cases outcome with
  | error fault => cases succeeds
  | ok config =>
      cases layer with
      | error fault =>
          rw [fromFile, gather, layers] at loads
          cases loads
      | ok file =>
          have layered := layered_per_key layers fun area => spelled area file rfl
          have sources := layered.sources names loads
          have seed := (sources (.text .seedDomain)).set
            (given ▸ List.mem_cons_self) (by decide +kernel)
          have missing : Area.schema.look file NumberKey.replicationFactor.name = none := by
            rw [Area.look, Option.isNone_iff_eq_none.mp (noFactor file rfl), Option.bind_none]
          have factor := ((sources (.number .replicationFactor)).usual unset missing).2
          refine ⟨config, rfl, ?_, ?_⟩
          · have shown : Environment.shown "b" = "b" := by decide +kernel
            have read := (TextKey.read_content .seedDomain _ "b").symm.trans seed
            rw [shown] at read
            exact (Except.ok.inj read).symm
          · exact UInt32.toNat_inj.mp (Int.ofNat_inj.mp factor)

end Config

end MailProvision
