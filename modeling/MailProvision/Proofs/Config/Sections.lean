import MailProvision.Config.Reading
import MailProvision.Proofs.Action
import MailProvision.Proofs.Settings.Layering

/-!
# The keys of a configuration

Each setting is a text or a number under a key of one of the four sections. Reading a section takes
each of its settings from the value under its key, or else its usual value
(`Area.read_table_iff`): which settings come out depends on these values and on nothing else.
-/

namespace MailProvision

open Settings

attribute [ext] Subject CertificateSettings

namespace Config

/-- The four sections. -/
inductive Area where
  | database
  | schema
  | certificate
  | logging
deriving DecidableEq

/-- The settings that are texts. -/
inductive TextKey where
  | hosts
  | username
  | password
  | seedDomain
  | country
  | state
  | locality
  | organization
  | organizationUnit
  | commonName
  | email
  | certificatePath
  | keyPath
  | level
  | format
deriving DecidableEq

/-- The settings that are whole numbers. -/
inductive NumberKey where
  | port
  | connectTimeout
  | statementTimeout
  | replicationFactor
  | serialNumber
  | validityStart
  | validityEnd
  | keyBits
deriving DecidableEq

/-- The configuration in which each setting without a need to be given has its usual value. -/
def usual : Config where
  database := { hosts := "", port := 0 }

namespace Area

/-- The key of the section. -/
def title : Area → String
  | database => "database"
  | schema => "schema"
  | certificate => "certificate"
  | logging => "logging"

/-- The record that the section forms. -/
def shape : Area → RecordShape
  | database => DatabaseSettings.shape
  | schema => SchemaSettings.shape
  | certificate => CertificateSettings.shape
  | logging => LoggingSettings.shape

end Area

namespace TextKey

/-- The section of the setting. -/
def area : TextKey → Area
  | hosts | username | password => .database
  | seedDomain => .schema
  | country | state | locality | organization | organizationUnit | commonName | email
  | certificatePath | keyPath => .certificate
  | level | format => .logging

/-- The key of the setting in its section. -/
def name : TextKey → String
  | hosts => "cassandra_hosts"
  | username => "cassandra_username"
  | password => "cassandra_password"
  | seedDomain => "seed_domain"
  | country => "country_name"
  | state => "state_name"
  | locality => "locality_name"
  | organization => "organization_name"
  | organizationUnit => "organization_unit"
  | commonName => "common_name"
  | email => "email_address"
  | certificatePath => "cert_out"
  | keyPath => "key_out"
  | level => "level"
  | format => "format"

/-- The setting in a configuration; some of them may be absent. -/
def get (config : Config) : TextKey → Option String
  | hosts => config.database.hosts
  | username => config.database.username
  | password => config.database.password
  | seedDomain => config.schema.seedDomain
  | country => config.certificate.subject.country
  | state => config.certificate.subject.state
  | locality => config.certificate.subject.locality
  | organization => config.certificate.subject.organization
  | organizationUnit => config.certificate.subject.organizationUnit
  | commonName => config.certificate.subject.commonName
  | email => config.certificate.subject.email
  | certificatePath => config.certificate.certificatePath
  | keyPath => config.certificate.keyPath
  | level => config.logging.level
  | format => config.logging.format

/-- Whether the setting may be absent from a configuration. -/
def optional : TextKey → Bool
  | username | password | seedDomain => true
  | _ => false

/-- Reads the value under the key. -/
def read (key : TextKey) : Reader (Option String) := fun value =>
  if key.optional then value.readOption Value.readText else value.readText.map some

end TextKey

/-- The fixed-width integers that settings are kept in. -/
inductive Width where
  | word16
  | word32
  | word64
  | signed64
deriving DecidableEq

namespace Width

/-- The least integer of the width. -/
def least : Width → Int
  | word16 | word32 | word64 => 0
  | signed64 => -9223372036854775808

/-- The greatest integer of the width. -/
def greatest : Width → Int
  | word16 => 65535
  | word32 => 4294967295
  | word64 => 18446744073709551615
  | signed64 => 9223372036854775807

/-- What is kept of an integer. -/
def wrap (n : Int) : Width → Int
  | word16 => (UInt16.ofNat n.toNat).toNat
  | word32 => (UInt32.ofNat n.toNat).toNat
  | word64 => (UInt64.ofNat n.toNat).toNat
  | signed64 => (Int64.ofInt n).toInt

/-- Reads an integer of the width. -/
def read : Width → Reader Int
  | word16 => fun value => (value.readUnsigned 16).map Int.ofNat
  | word32 => fun value => (value.readUnsigned 32).map Int.ofNat
  | word64 => fun value => value.readUInt64.map Int.ofNat
  | signed64 => Value.readInt64

theorem wrap_eq {width : Width} {n : Int} (low : width.least ≤ n) (high : n ≤ width.greatest) :
    width.wrap n = n := by
  cases width with
  | word16 =>
      have small : n.toNat < 65536 := by
        simp only [greatest] at high
        omega
      rw [wrap, UInt16.toNat_ofNat_of_lt' small, Int.toNat_of_nonneg low]
  | word32 =>
      have small : n.toNat < 4294967296 := by
        simp only [greatest] at high
        omega
      rw [wrap, UInt32.toNat_ofNat_of_lt' small, Int.toNat_of_nonneg low]
  | word64 =>
      have small : n.toNat < 18446744073709551616 := by
        simp only [greatest] at high
        omega
      rw [wrap, UInt64.toNat_ofNat_of_lt' small, Int.toNat_of_nonneg low]
  | signed64 => exact Int64.toInt_ofInt_of_le low (Int.lt_add_one_of_le high)

end Width

namespace NumberKey

/-- The section of the setting. -/
def area : NumberKey → Area
  | port | connectTimeout | statementTimeout => .database
  | replicationFactor => .schema
  | serialNumber | validityStart | validityEnd | keyBits => .certificate

/-- The key of the setting in its section. -/
def name : NumberKey → String
  | port => "cassandra_native"
  | connectTimeout => "connect_timeout_secs"
  | statementTimeout => "statement_timeout_secs"
  | replicationFactor => "replication_factor"
  | serialNumber => "serial_number"
  | validityStart => "validity_start_in_seconds"
  | validityEnd => "validity_end_in_seconds"
  | keyBits => "key_bits"

/-- The setting in a configuration. -/
def get (config : Config) : NumberKey → Int
  | port => config.database.port.toNat
  | connectTimeout => config.database.connectTimeoutSeconds.toNat
  | statementTimeout => config.database.statementTimeoutSeconds.toNat
  | replicationFactor => config.schema.replicationFactor.toNat
  | serialNumber => config.certificate.subject.serialNumber.toNat
  | validityStart => config.certificate.subject.validityStart.toInt
  | validityEnd => config.certificate.subject.validityEnd.toInt
  | keyBits => config.certificate.keyBits.toNat

/-- The width of the setting. -/
def width : NumberKey → Width
  | port => .word16
  | replicationFactor => .word32
  | connectTimeout | statementTimeout | serialNumber | keyBits => .word64
  | validityStart | validityEnd => .signed64

end NumberKey

/-! ### Fields of a record -/

/-- A text setting is what its reader makes of the value that was found, or its usual value. -/
def TextKey.Reads (key : TextKey) (found : Option Value) (config : Config) : Prop :=
  match found with
  | none => key ≠ .hosts ∧ key.get config = key.get usual
  | some value => key.read value = .ok (key.get config)

/-- A number is what its reader makes of the value that was found, or its usual value. -/
def NumberKey.Reads (key : NumberKey) (found : Option Value) (config : Config) : Prop :=
  match found with
  | none => key ≠ .port ∧ key.get config = key.get usual
  | some value => ∃ n, key.width.read value = .ok n ∧ key.get config = key.width.wrap n

/-- What a reader makes of the value that was found for a field, if any was. -/
def Gives {α : Type} (reader : Reader α) (found : Option Value) (given : Option α) : Prop :=
  found.elim (given = none) fun value => ∃ x, reader value = .ok x ∧ given = some x

theorem read?_eq_ok_iff {α : Type} {shape : RecordShape} {fields : Fields} {field : String}
    {reader : Reader α} {given : Option α} :
    shape.read? fields field reader = .ok given ↔
      Gives reader ((shape.locate? fields field).map Prod.snd) given := by
  rw [RecordShape.read?, Gives]
  cases shape.locate? fields field with
  | none => simp [eq_comm]
  | some located =>
      rcases located with ⟨step, value⟩
      simp only [Option.map_some, Option.elim_some]
      cases reader value with
      | error mismatch =>
          constructor
          · rintro ⟨⟩
          · rintro ⟨_, ⟨⟩, _⟩
      | ok x =>
          constructor
          · rintro ⟨⟩
            exact ⟨x, rfl, rfl⟩
          · rintro ⟨_, ⟨⟩, rfl⟩
            rfl

theorem gives_getD_iff {α : Type} {reader : Reader α} {found : Option Value} {standard x : α} :
    (∃ given, Gives reader found given ∧ x = given.getD standard) ↔
      found.elim (x = standard) fun value => reader value = .ok x := by
  cases found with
  | none => simp [Gives]
  | some value =>
      simp only [Gives, Option.elim_some]
      cases reader value with
      | error mismatch => simp
      | ok y => simp [eq_comm]

theorem eq_some_of_require {α : Type} {shape : RecordShape} {fields : Fields} {field : String}
    {given : Option α} {x : α} (required : shape.require fields field given = .ok x) :
    given = some x := by
  cases given with
  | some value =>
      cases required
      rfl
  | none => cases fields <;> cases required

theorem allow_named {α : Type} (shape : RecordShape) (entries : Entries) (field : String)
    (given : Option (Option α)) :
    shape.allow (.named entries) field given = .ok (given.getD none) := by
  cases given <;> rfl

theorem getD_of_allow {α : Type} {shape : RecordShape} {fields : Fields} {field : String}
    {given : Option (Option α)} {x : Option α}
    (allowed : shape.allow fields field given = .ok x) : given.getD none = x := by
  cases given with
  | some value =>
      cases allowed
      rfl
  | none =>
      cases fields with
      | named entries =>
          cases allowed
          rfl
      | positional items => cases allowed

section Keys

variable {config : Config} {found : Option Value}

theorem reads_text_iff {key : TextKey} (plain : key.optional = false) (given : key ≠ .hosts)
    {standard text : String} (usually : key.get usual = some standard)
    (kept : key.get config = some text) :
    key.Reads found config ↔
      ∃ given, Gives Value.readText found given ∧ text = given.getD standard := by
  cases found with
  | none => simp [TextKey.Reads, Gives, given, usually, kept]
  | some value =>
      simp only [TextKey.Reads, TextKey.read, Gives, plain, kept, Option.elim_some]
      cases value.readText with
      | error mismatch => simp [Except.map]
      | ok x => simp [Except.map, eq_comm]

theorem reads_hosts_iff :
    TextKey.hosts.Reads found config ↔
      Gives Value.readText found (some config.database.hosts) := by
  cases found with
  | none => simp [TextKey.Reads, Gives]
  | some value =>
      simp only [TextKey.Reads, TextKey.read, Gives, TextKey.optional, TextKey.get,
        Option.elim_some]
      cases value.readText with
      | error mismatch => simp [Except.map]
      | ok x => simp [Except.map, eq_comm]

theorem reads_optional_iff {key : TextKey} (optional : key.optional = true) :
    key.Reads found config ↔
      ∃ given, Gives (Value.readOption Value.readText) found given ∧
        key.get config = given.getD (key.get usual) := by
  have given : key ≠ .hosts := by
    rintro rfl
    cases optional
  cases found with
  | none => simp [TextKey.Reads, Gives, given]
  | some value =>
      simp only [TextKey.Reads, TextKey.read, Gives, optional, Option.elim_some]
      cases value.readOption Value.readText with
      | error mismatch => simp
      | ok x => simp [eq_comm]

/-- A number with a usual value, kept as a word of its width. -/
theorem reads_number_iff {Read Word : Type} {reader : Reader Read} (whole : Read → Int)
    {keep : Read → Word} (toInt : Word → Int) (injective : Function.Injective toInt)
    {key : NumberKey} (given : key ≠ .port)
    (reading : ∀ value, key.width.read value = (reader value).map whole)
    (wrapping : ∀ x, key.width.wrap (whole x) = toInt (keep x)) {standard word : Word}
    (usually : key.get usual = toInt standard) (kept : key.get config = toInt word) :
    key.Reads found config ↔
      ∃ given, Gives reader found given ∧ word = (given.map keep).getD standard := by
  cases found with
  | none => simp [NumberKey.Reads, Gives, given, usually, kept, injective.eq_iff]
  | some value =>
      simp only [NumberKey.Reads, Gives, reading, kept, Option.elim_some]
      cases reader value with
      | error mismatch => simp [Except.map]
      | ok x => simp [Except.map, wrapping, injective.eq_iff]

theorem reads_word64_iff {key : NumberKey} (width : key.width = .word64) (standard : UInt64)
    {word : UInt64}
    (usually : key.get usual = standard.toNat) (kept : key.get config = word.toNat) :
    key.Reads found config ↔
      ∃ given, Gives Value.readUInt64 found given ∧
        word = (given.map UInt64.ofNat).getD standard := by
  refine reads_number_iff Int.ofNat (fun word => (word.toNat : Int)) ?_ ?_ ?_ ?_ usually kept
  · exact fun first second same => UInt64.toNat_inj.mp (Int.ofNat_inj.mp same)
  · rintro rfl
    cases width
  · exact fun value => by rw [width]; rfl
  · exact fun n => by rw [width]; rfl

theorem reads_word32_iff {key : NumberKey} (width : key.width = .word32) (standard : UInt32)
    {word : UInt32}
    (usually : key.get usual = standard.toNat) (kept : key.get config = word.toNat) :
    key.Reads found config ↔
      ∃ given, Gives (Value.readUnsigned 32) found given ∧
        word = (given.map UInt32.ofNat).getD standard := by
  refine reads_number_iff Int.ofNat (fun word => (word.toNat : Int)) ?_ ?_ ?_ ?_ usually kept
  · exact fun first second same => UInt32.toNat_inj.mp (Int.ofNat_inj.mp same)
  · rintro rfl
    cases width
  · exact fun value => by rw [width]; rfl
  · exact fun n => by rw [width]; rfl

theorem reads_signed64_iff {key : NumberKey} (width : key.width = .signed64)
    (standard : Int64) {word : Int64} (usually : key.get usual = standard.toInt)
    (kept : key.get config = word.toInt) :
    key.Reads found config ↔
      ∃ given, Gives Value.readInt64 found given ∧
        word = (given.map Int64.ofInt).getD standard := by
  refine reads_number_iff id Int64.toInt ?_ ?_ ?_ ?_ usually kept
  · exact fun first second => Int64.toInt_inj.mp
  · rintro rfl
    cases width
  · intro value
    rw [width, Width.read]
    cases value.readInt64 <;> rfl
  · exact fun n => by rw [width]; rfl

theorem reads_port_iff :
    NumberKey.port.Reads found config ↔
      ∃ n, Gives (Value.readUnsigned 16) found (some n) ∧
        config.database.port = UInt16.ofNat n := by
  cases found with
  | none => simp [NumberKey.Reads, Gives]
  | some value =>
      simp only [NumberKey.Reads, Gives, NumberKey.width, Width.read, Width.wrap, NumberKey.get,
        Option.elim_some]
      cases value.readUnsigned 16 with
      | error mismatch => simp [Except.map]
      | ok n =>
          simp only [Except.map, Except.ok.injEq, exists_eq_left', Int.toNat_natCast,
            Int.ofNat_eq_natCast, Int.natCast_inj, UInt16.toNat_inj, Option.some.injEq,
            exists_eq_left]

end Keys

/-! ### Sections -/

namespace Area

/-- What comes out of a section of the settings: each setting by its own value. -/
def Reads (area : Area) (found : String → Option Value) (config : Config) : Prop :=
  (∀ key : TextKey, key.area = area → key.Reads (found key.name) config) ∧
    ∀ key : NumberKey, key.area = area → key.Reads (found key.name) config

/-- The value that a record gives for a field. -/
def find? (area : Area) (record : Value) (field : String) : Option Value :=
  (area.shape.fieldsOf record).toOption.bind fun fields =>
    (area.shape.locate? fields field).map Prod.snd

/-- A section of a configuration is what its reader makes of a value. -/
def ReadsAs (area : Area) (record : Value) (config : Config) : Prop :=
  match area with
  | database => DatabaseSettings.read record = .ok config.database
  | schema => SchemaSettings.read record = .ok config.schema
  | certificate => CertificateSettings.read record = .ok config.certificate
  | logging => LoggingSettings.read record = .ok config.logging

theorem find?_eq (area : Area) {record : Value} {fields : Fields}
    (recorded : area.shape.fieldsOf record = .ok fields) (name : String) :
    area.find? record name = (area.shape.locate? fields name).map Prod.snd := by
  rw [find?, recorded]
  rfl

theorem reads_of_readsAs_database {record : Value} {config : Config}
    (loaded : database.ReadsAs record config) : database.Reads (database.find? record) config := by
  simp only [ReadsAs, DatabaseSettings.read, bind_eq_ok_iff, read?_eq_ok_iff] at loaded
  rcases loaded with ⟨fields, recorded, hosts, hostsRead, port, portRead, username, usernameRead,
    password, passwordRead, connectTimeout, connectTimeoutRead, statementTimeout,
    statementTimeoutRead, host, hostGiven, portNumber, portGiven, user, userGiven, word, wordGiven,
    same⟩
  have kept := (Except.ok.inj same).symm
  rw [eq_some_of_require hostGiven] at hostsRead
  rw [eq_some_of_require portGiven] at portRead
  constructor
  · intro key own
    rw [find?_eq database recorded]
    cases key
    case hosts =>
      rw [reads_hosts_iff, kept]
      exact hostsRead
    case username =>
      rw [reads_optional_iff rfl]
      refine ⟨username, usernameRead, ?_⟩
      rw [TextKey.get, kept, ← getD_of_allow userGiven]
      rfl
    case password =>
      rw [reads_optional_iff rfl]
      refine ⟨password, passwordRead, ?_⟩
      rw [TextKey.get, kept, ← getD_of_allow wordGiven]
      rfl
    all_goals cases own
  · intro key own
    rw [find?_eq database recorded]
    cases key
    case port =>
      rw [reads_port_iff, kept]
      exact ⟨portNumber, portRead, rfl⟩
    case connectTimeout =>
      refine (reads_word64_iff rfl 10 rfl rfl).2
        ⟨connectTimeout, connectTimeoutRead, ?_⟩
      rw [kept]
      cases connectTimeout <;> rfl
    case statementTimeout =>
      refine (reads_word64_iff rfl 30 rfl rfl).2
        ⟨statementTimeout, statementTimeoutRead, ?_⟩
      rw [kept]
      cases statementTimeout <;> rfl
    all_goals cases own

theorem located_named (shape : RecordShape) (entries : Entries) :
    (fun name => (shape.locate? (.named entries) name).map Prod.snd) = entries.get? := by
  funext name
  rw [RecordShape.locate?]
  cases entries.get? name <;> rfl

theorem readsAs_of_reads_database {origin : Option Origin} {entries : Entries} {config : Config}
    (reads : database.Reads entries.get? config) :
    database.ReadsAs (.table origin entries) config := by
  rw [← located_named database.shape] at reads
  have hosts := reads_hosts_iff.1 (reads.1 .hosts rfl)
  rcases reads_port_iff.1 (reads.2 .port rfl) with ⟨port, portRead, portKept⟩
  rcases (reads_optional_iff rfl).1 (reads.1 .username rfl) with
    ⟨username, usernameRead, usernameKept⟩
  rcases (reads_optional_iff rfl).1 (reads.1 .password rfl) with
    ⟨password, passwordRead, passwordKept⟩
  rcases (reads_word64_iff rfl 10 rfl rfl).1 (reads.2 .connectTimeout rfl) with
    ⟨connectTimeout, connectTimeoutRead, connectTimeoutKept⟩
  rcases (reads_word64_iff rfl 30 rfl rfl).1 (reads.2 .statementTimeout rfl) with
    ⟨statementTimeout, statementTimeoutRead, statementTimeoutKept⟩
  simp only [ReadsAs, DatabaseSettings.read, bind_eq_ok_iff, read?_eq_ok_iff]
  refine ⟨.named entries, rfl, _, hosts, _, portRead, username, usernameRead, password,
    passwordRead, connectTimeout, connectTimeoutRead, statementTimeout, statementTimeoutRead,
    _, rfl, _, rfl, _, allow_named .., _, allow_named .., congrArg Except.ok ?_⟩
  have connectTimeoutKept : config.database.connectTimeoutSeconds =
      UInt64.ofNat (connectTimeout.getD 10) := by
    rw [connectTimeoutKept]
    cases connectTimeout <;> rfl
  have statementTimeoutKept : config.database.statementTimeoutSeconds =
      UInt64.ofNat (statementTimeout.getD 30) := by
    rw [statementTimeoutKept]
    cases statementTimeout <;> rfl
  rw [← portKept, ← connectTimeoutKept, ← statementTimeoutKept]
  exact congrArg₂ (DatabaseSettings.mk _ _ · · _ _) usernameKept.symm passwordKept.symm

theorem reads_of_readsAs_schema {record : Value} {config : Config}
    (loaded : schema.ReadsAs record config) : schema.Reads (schema.find? record) config := by
  simp only [ReadsAs, SchemaSettings.read, bind_eq_ok_iff, read?_eq_ok_iff] at loaded
  rcases loaded with ⟨fields, recorded, replicationFactor, replicationFactorRead, seedDomain,
    seedDomainRead, same⟩
  have kept := (Except.ok.inj same).symm
  constructor
  · intro key own
    rw [find?_eq schema recorded]
    cases key
    case seedDomain =>
      refine (reads_optional_iff rfl).2 ⟨seedDomain, seedDomainRead, ?_⟩
      rw [TextKey.get, kept]
      rfl
    all_goals cases own
  · intro key own
    rw [find?_eq schema recorded]
    cases key
    case replicationFactor =>
      refine (reads_word32_iff rfl 3 rfl rfl).2
        ⟨replicationFactor, replicationFactorRead, ?_⟩
      rw [kept]
    all_goals cases own

theorem readsAs_of_reads_schema {origin : Option Origin} {entries : Entries} {config : Config}
    (reads : schema.Reads entries.get? config) :
    schema.ReadsAs (.table origin entries) config := by
  rw [← located_named schema.shape] at reads
  rcases (reads_word32_iff rfl 3 rfl rfl).1 (reads.2 .replicationFactor rfl) with
    ⟨replicationFactor, replicationFactorRead, replicationFactorKept⟩
  rcases (reads_optional_iff rfl).1 (reads.1 .seedDomain rfl) with
    ⟨seedDomain, seedDomainRead, seedDomainKept⟩
  simp only [ReadsAs, SchemaSettings.read, bind_eq_ok_iff, read?_eq_ok_iff]
  refine ⟨.named entries, rfl, replicationFactor, replicationFactorRead, seedDomain,
    seedDomainRead, congrArg Except.ok ?_⟩
  exact congrArg₂ SchemaSettings.mk replicationFactorKept.symm seedDomainKept.symm

theorem reads_of_readsAs_logging {record : Value} {config : Config}
    (loaded : logging.ReadsAs record config) : logging.Reads (logging.find? record) config := by
  simp only [ReadsAs, LoggingSettings.read, bind_eq_ok_iff, read?_eq_ok_iff] at loaded
  rcases loaded with ⟨fields, recorded, level, levelRead, format, formatRead, same⟩
  have kept := (Except.ok.inj same).symm
  constructor
  · intro key own
    rw [find?_eq logging recorded]
    cases key
    case level =>
      refine (reads_text_iff rfl (by decide) rfl rfl).2 ⟨level, levelRead, ?_⟩
      rw [kept]
      rfl
    case format =>
      refine (reads_text_iff rfl (by decide) rfl rfl).2 ⟨format, formatRead, ?_⟩
      rw [kept]
      rfl
    all_goals cases own
  · intro key own
    cases key <;> cases own

theorem readsAs_of_reads_logging {origin : Option Origin} {entries : Entries} {config : Config}
    (reads : logging.Reads entries.get? config) :
    logging.ReadsAs (.table origin entries) config := by
  rw [← located_named logging.shape] at reads
  rcases (reads_text_iff rfl (by decide) rfl rfl).1 (reads.1 .level rfl) with
    ⟨level, levelRead, levelKept⟩
  rcases (reads_text_iff rfl (by decide) rfl rfl).1 (reads.1 .format rfl) with
    ⟨format, formatRead, formatKept⟩
  simp only [ReadsAs, LoggingSettings.read, bind_eq_ok_iff, read?_eq_ok_iff]
  refine ⟨.named entries, rfl, level, levelRead, format, formatRead, congrArg Except.ok ?_⟩
  exact congrArg₂ LoggingSettings.mk levelKept.symm formatKept.symm

theorem reads_of_readsAs_certificate {record : Value} {config : Config}
    (loaded : certificate.ReadsAs record config) :
    certificate.Reads (certificate.find? record) config := by
  simp only [ReadsAs, CertificateSettings.read, bind_eq_ok_iff, read?_eq_ok_iff] at loaded
  rcases loaded with ⟨fields, recorded, country, countryRead, state, stateRead, locality,
    localityRead, organization, organizationRead, unit, unitRead, commonName, commonNameRead,
    email, emailRead, serialNumber, serialNumberRead, validityStart, validityStartRead,
    validityEnd, validityEndRead, keyBits, keyBitsRead, certificatePath, certificatePathRead,
    keyPath, keyPathRead, same⟩
  have kept := (Except.ok.inj same).symm
  have readsText {key : TextKey} {given : Option String} (plain : key.optional = false)
      (other : key ≠ .hosts) {standard : String} (usually : key.get usual = some standard)
      (read : Gives Value.readText ((certificate.shape.locate? fields key.name).map Prod.snd) given)
      (taken : key.get config = some (given.getD standard)) :
      key.Reads (certificate.find? record key.name) config := by
    rw [find?_eq certificate recorded]
    exact (reads_text_iff plain other usually taken).2 ⟨given, read, rfl⟩
  constructor
  · intro key own
    cases key
    case country =>
      exact readsText rfl (by decide) rfl countryRead (by rw [TextKey.get, kept]; rfl)
    case state =>
      exact readsText rfl (by decide) rfl stateRead (by rw [TextKey.get, kept]; rfl)
    case locality =>
      exact readsText rfl (by decide) rfl localityRead (by rw [TextKey.get, kept]; rfl)
    case organization =>
      exact readsText rfl (by decide) rfl organizationRead (by rw [TextKey.get, kept]; rfl)
    case organizationUnit =>
      exact readsText rfl (by decide) rfl unitRead (by rw [TextKey.get, kept]; rfl)
    case commonName =>
      exact readsText rfl (by decide) rfl commonNameRead (by rw [TextKey.get, kept]; rfl)
    case email =>
      exact readsText rfl (by decide) rfl emailRead (by rw [TextKey.get, kept]; rfl)
    case certificatePath =>
      exact readsText rfl (by decide) rfl certificatePathRead (by rw [TextKey.get, kept]; rfl)
    case keyPath =>
      exact readsText rfl (by decide) rfl keyPathRead (by rw [TextKey.get, kept]; rfl)
    all_goals cases own
  · intro key own
    rw [find?_eq certificate recorded]
    cases key
    case serialNumber =>
      refine (reads_word64_iff rfl 0 rfl rfl).2 ⟨serialNumber, serialNumberRead, ?_⟩
      rw [kept]
    case validityStart =>
      refine (reads_signed64_iff rfl 0 rfl rfl).2 ⟨validityStart, validityStartRead, ?_⟩
      rw [kept]
    case validityEnd =>
      refine (reads_signed64_iff rfl tenYears rfl rfl).2 ⟨validityEnd, validityEndRead, ?_⟩
      rw [kept]
    case keyBits =>
      refine (reads_word64_iff rfl 4096 rfl rfl).2 ⟨keyBits, keyBitsRead, ?_⟩
      rw [kept]
    all_goals cases own

theorem readsAs_of_reads_certificate {origin : Option Origin} {entries : Entries}
    {config : Config} (reads : certificate.Reads entries.get? config) :
    certificate.ReadsAs (.table origin entries) config := by
  rw [← located_named certificate.shape] at reads
  have readText {key : TextKey} (plain : key.optional = false) (other : key ≠ .hosts)
      (own : key.area = certificate) {standard text : String}
      (usually : key.get usual = some standard) (kept : key.get config = some text) :
      ∃ given, Gives Value.readText
        ((certificate.shape.locate? (.named entries) key.name).map Prod.snd) given ∧
          text = given.getD standard :=
    (reads_text_iff plain other usually kept).1 (reads.1 key own)
  rcases readText rfl (by decide) (rfl : TextKey.country.area = _) rfl rfl with
    ⟨country, countryRead, countryKept⟩
  rcases readText rfl (by decide) (rfl : TextKey.state.area = _) rfl rfl with
    ⟨state, stateRead, stateKept⟩
  rcases readText rfl (by decide) (rfl : TextKey.locality.area = _) rfl rfl with
    ⟨locality, localityRead, localityKept⟩
  rcases readText rfl (by decide) (rfl : TextKey.organization.area = _) rfl rfl with
    ⟨organization, organizationRead, organizationKept⟩
  rcases readText rfl (by decide) (rfl : TextKey.organizationUnit.area = _) rfl rfl with
    ⟨unit, unitRead, unitKept⟩
  rcases readText rfl (by decide) (rfl : TextKey.commonName.area = _) rfl rfl with
    ⟨commonName, commonNameRead, commonNameKept⟩
  rcases readText rfl (by decide) (rfl : TextKey.email.area = _) rfl rfl with
    ⟨email, emailRead, emailKept⟩
  rcases readText rfl (by decide) (rfl : TextKey.certificatePath.area = _) rfl rfl with
    ⟨certificatePath, certificatePathRead, certificatePathKept⟩
  rcases readText rfl (by decide) (rfl : TextKey.keyPath.area = _) rfl rfl with
    ⟨keyPath, keyPathRead, keyPathKept⟩
  rcases (reads_word64_iff rfl 0 rfl rfl).1 (reads.2 .serialNumber rfl) with
    ⟨serialNumber, serialNumberRead, serialNumberKept⟩
  rcases (reads_signed64_iff rfl 0 rfl rfl).1 (reads.2 .validityStart rfl) with
    ⟨validityStart, validityStartRead, validityStartKept⟩
  rcases (reads_signed64_iff rfl tenYears rfl rfl).1 (reads.2 .validityEnd rfl) with
    ⟨validityEnd, validityEndRead, validityEndKept⟩
  rcases (reads_word64_iff rfl 4096 rfl rfl).1 (reads.2 .keyBits rfl) with
    ⟨keyBits, keyBitsRead, keyBitsKept⟩
  simp only [ReadsAs, CertificateSettings.read, bind_eq_ok_iff, read?_eq_ok_iff]
  refine ⟨.named entries, rfl, country, countryRead, state, stateRead, locality, localityRead,
    organization, organizationRead, unit, unitRead, commonName, commonNameRead, email, emailRead,
    serialNumber, serialNumberRead, validityStart, validityStartRead, validityEnd,
    validityEndRead, keyBits, keyBitsRead, certificatePath, certificatePathRead, keyPath,
    keyPathRead, congrArg Except.ok ?_⟩
  exact CertificateSettings.ext
    (Subject.ext countryKept.symm stateKept.symm localityKept.symm organizationKept.symm
      unitKept.symm commonNameKept.symm emailKept.symm serialNumberKept.symm
      validityStartKept.symm validityEndKept.symm)
    keyBitsKept.symm certificatePathKept.symm keyPathKept.symm

theorem reads_of_readsAs {area : Area} {record : Value} {config : Config}
    (loaded : area.ReadsAs record config) : area.Reads (area.find? record) config := by
  cases area with
  | database => exact reads_of_readsAs_database loaded
  | schema => exact reads_of_readsAs_schema loaded
  | certificate => exact reads_of_readsAs_certificate loaded
  | logging => exact reads_of_readsAs_logging loaded

theorem readsAs_of_reads {area : Area} {origin : Option Origin} {entries : Entries}
    {config : Config} (reads : area.Reads entries.get? config) :
    area.ReadsAs (.table origin entries) config := by
  cases area with
  | database => exact readsAs_of_reads_database reads
  | schema => exact readsAs_of_reads_schema reads
  | certificate => exact readsAs_of_reads_certificate reads
  | logging => exact readsAs_of_reads_logging reads

/-- A section is as it is when the settings do not have it. -/
def Absent (area : Area) (config : Config) : Prop :=
  match area with
  | database => False
  | schema => config.schema = {}
  | certificate => config.certificate = {}
  | logging => config.logging = {}

theorem reads_of_absent {area : Area} {config : Config} (absent : area.Absent config) :
    area.Reads (fun _ => none) config := by
  constructor
  · intro key own
    subst own
    cases key
    case hosts | username | password => exact absent.elim
    all_goals
      simp only [Absent, TextKey.area] at absent
      refine ⟨by decide, ?_⟩
      simp only [TextKey.get, absent]
      rfl
  · intro key own
    subst own
    cases key
    case port | connectTimeout | statementTimeout => exact absent.elim
    all_goals
      simp only [Absent, NumberKey.area] at absent
      refine ⟨by decide, ?_⟩
      simp only [NumberKey.get, absent]
      rfl

/-- What the settings give for a section, and what it becomes. -/
def Takes (area : Area) (found : Option Value) (config : Config) : Prop :=
  found.elim (area.Absent config) fun record => area.ReadsAs record config

theorem takes_database_iff {found : Option Value} {config : Config} :
    database.Takes found config ↔ Gives DatabaseSettings.read found (some config.database) := by
  cases found with
  | none => simp [Takes, Absent, Gives]
  | some record => simp [Takes, ReadsAs, Gives]

theorem takes_schema_iff {found : Option Value} {config : Config} :
    schema.Takes found config ↔
      ∃ given, Gives SchemaSettings.read found given ∧ config.schema = given.getD {} :=
  gives_getD_iff.symm

theorem takes_certificate_iff {found : Option Value} {config : Config} :
    certificate.Takes found config ↔
      ∃ given, Gives CertificateSettings.read found given ∧ config.certificate = given.getD {} :=
  gives_getD_iff.symm

theorem takes_logging_iff {found : Option Value} {config : Config} :
    logging.Takes found config ↔
      ∃ given, Gives LoggingSettings.read found given ∧ config.logging = given.getD {} :=
  gives_getD_iff.symm

/-- The value that the settings give under a key of a section. -/
def look (area : Area) (settings : Entries) (name : String) : Option Value :=
  (settings.get? area.title).bind fun record => area.find? record name

theorem reads_of_takes {area : Area} {settings : Entries} {config : Config}
    (takes : area.Takes (settings.get? area.title) config) :
    area.Reads (area.look settings) config := by
  unfold look
  cases found : settings.get? area.title with
  | none =>
      rw [found] at takes
      exact reads_of_absent takes
  | some record =>
      rw [found] at takes
      exact reads_of_readsAs takes

end Area

theorem read_table_iff {origin : Option Origin} {settings : Entries} {config : Config} :
    read (.table origin settings) = .ok config ↔
      ∀ area : Area, area.Takes (settings.get? area.title) config := by
  have located := congrFun (Area.located_named shape settings)
  have fields : shape.fieldsOf (.table origin settings) = .ok (.named settings) := rfl
  simp only [read, bind_eq_ok_iff, read?_eq_ok_iff, fields]
  constructor
  · rintro ⟨_, ⟨⟩, database, databaseRead, schema, schemaRead, certificate, certificateRead,
      logging, loggingRead, given, required, same⟩
    obtain rfl := Except.ok.inj same
    rw [eq_some_of_require required, located] at databaseRead
    rw [located] at schemaRead certificateRead loggingRead
    intro area
    cases area with
    | database => exact Area.takes_database_iff.2 databaseRead
    | schema => exact Area.takes_schema_iff.2 ⟨schema, schemaRead, rfl⟩
    | certificate => exact Area.takes_certificate_iff.2 ⟨certificate, certificateRead, rfl⟩
    | logging => exact Area.takes_logging_iff.2 ⟨logging, loggingRead, rfl⟩
  · intro takes
    have database := Area.takes_database_iff.1 (takes .database)
    rcases Area.takes_schema_iff.1 (takes .schema) with ⟨schema, schemaRead, schemaKept⟩
    rcases Area.takes_certificate_iff.1 (takes .certificate) with
      ⟨certificate, certificateRead, certificateKept⟩
    rcases Area.takes_logging_iff.1 (takes .logging) with ⟨logging, loggingRead, loggingKept⟩
    rw [← located] at database schemaRead certificateRead loggingRead
    refine ⟨_, rfl, _, database, schema, schemaRead, certificate, certificateRead, logging,
      loggingRead, _, rfl, congrArg Except.ok ?_⟩
    rw [← schemaKept, ← certificateKept, ← loggingKept]

end Config

end MailProvision
