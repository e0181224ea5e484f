import MailProvision.Certificate.Subject
import MailProvision.Cluster.Credentials
import MailProvision.Duration
import MailProvision.Schema.Mail
import MailProvision.Settings.File

/-!
# The configuration

The typed settings of a provisioning run in four sections, with their defaults, and the checks that
turn the database section into credentials.
-/

namespace MailProvision

/-- How the cluster is reached. -/
structure DatabaseSettings where
  /-- The hosts, separated by commas. -/
  hosts : String
  port : UInt16
  username : Option String := none
  password : Option String := none
  /-- Seconds that a connection attempt may take. -/
  connectTimeoutSeconds : UInt64 := 10
  /-- Seconds that a statement may take. -/
  statementTimeoutSeconds : UInt64 := 30
deriving DecidableEq, Repr

/-- What is chosen about the schema. -/
structure SchemaSettings where
  replicationFactor : UInt32 := 3
  seedDomain : Option String := some "fannst.nl"
deriving DecidableEq, Repr

/-- What is chosen about the certificate, and where it and its key are written. -/
structure CertificateSettings where
  subject : Subject := {}
  /-- The size of the modulus in bits. -/
  keyBits : UInt64 := 4096
  certificatePath : String := "./env/keys/cert.pem"
  keyPath : String := "./env/keys/key.pem"
deriving DecidableEq, Repr

/-- How events are reported. -/
structure LoggingSettings where
  level : String := "info"
  /-- `json` for one object on each line, anything else for plain lines. -/
  format : String := "text"
deriving DecidableEq, Repr

/-- The settings of a provisioning run. -/
structure Config where
  database : DatabaseSettings
  schema : SchemaSettings := {}
  certificate : CertificateSettings := {}
  logging : LoggingSettings := {}
deriving DecidableEq, Repr

/-- Why there is no usable configuration. -/
inductive ConfigFault where
  | noFile
  | unreadable (path : String) (cause : Settings.ReadFault)
  | unusable (path : String) (cause : Settings.Mismatch)
  | noHosts
  | zeroPort
  | zeroTimeout (key : String)
  /-- Any other reason, in words. -/
  | other (text : String)
deriving DecidableEq, Repr

namespace ConfigFault

/-- The fault in words. -/
def message : ConfigFault → String
  | noFile => "No configuration file found"
  | unreadable path cause => "Failed to read config file " ++ path ++ ": " ++ cause.message
  | unusable path cause => "Failed to parse config " ++ path ++ ": " ++ cause.message
  | noHosts => "database.cassandra_hosts must list at least one host"
  | zeroPort => "database.cassandra_native must be a non-zero port"
  | zeroTimeout key => "database." ++ key ++ " must be at least 1"
  | other text => text

end ConfigFault

namespace DatabaseSettings

/-- A text that is there and not empty. -/
def nonEmpty (text : Option String) : Option String :=
  text.filter fun text => !text.isEmpty

/-- The credentials that the section describes. Refuses a section without hosts, without a port or
with a timeout of zero. An empty user name or password counts as absent. -/
def credentials (database : DatabaseSettings) : Except ConfigFault Credentials :=
  let hosts := Credentials.parseHosts database.hosts
  if hosts.isEmpty then .error .noHosts
  else if database.port = 0 then .error .zeroPort
  else if database.connectTimeoutSeconds = 0 then .error (.zeroTimeout "connect_timeout_secs")
  else if database.statementTimeoutSeconds = 0 then .error (.zeroTimeout "statement_timeout_secs")
  else
    .ok
      { hosts
        port := database.port
        username := nonEmpty database.username
        password := nonEmpty database.password }

/-- The time that a connection attempt may take. -/
def connectTimeout (database : DatabaseSettings) : Duration :=
  .ofSeconds database.connectTimeoutSeconds.toNat

/-- The time that a statement may take. -/
def statementTimeout (database : DatabaseSettings) : Duration :=
  .ofSeconds database.statementTimeoutSeconds.toNat

end DatabaseSettings

namespace SchemaSettings

/-- The seed domain without white space around it, unless nothing is left. -/
def seedDomain? (schema : SchemaSettings) : Option String :=
  (schema.seedDomain.map Text.trim).filter fun domain => !domain.isEmpty

/-- The schema options that the section describes. -/
def options (schema : SchemaSettings) : Schema.Options :=
  { replicationFactor := schema.replicationFactor, seedDomain := schema.seedDomain? }

end SchemaSettings

end MailProvision
