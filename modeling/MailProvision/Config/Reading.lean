import MailProvision.Config.Basic
import MailProvision.Settings.Record

/-!
# Reading the configuration

The records that settings have to form. A field that is not given takes its default, except for the
database section and its hosts and port, which have none. Whatever a record holds beyond its fields
is ignored.
-/

namespace MailProvision

open Settings

namespace DatabaseSettings

/-- The fields of the section. -/
def shape : RecordShape where
  name := "DatabaseConfig"
  fields :=
    ["cassandra_hosts", "cassandra_native", "cassandra_username", "cassandra_password",
      "connect_timeout_secs", "statement_timeout_secs"]

/-- Reads the section. -/
def read : Reader DatabaseSettings := fun value => do
  let fields ← shape.fieldsOf value
  let hosts ← shape.read? fields "cassandra_hosts" Value.readText
  let port ← shape.read? fields "cassandra_native" (Value.readUnsigned 16)
  let username ← shape.read? fields "cassandra_username" (Value.readOption Value.readText)
  let password ← shape.read? fields "cassandra_password" (Value.readOption Value.readText)
  let connectTimeout ← shape.read? fields "connect_timeout_secs" Value.readUInt64
  let statementTimeout ← shape.read? fields "statement_timeout_secs" Value.readUInt64
  let hosts ← shape.require fields "cassandra_hosts" hosts
  let port ← shape.require fields "cassandra_native" port
  let username ← shape.allow fields "cassandra_username" username
  let password ← shape.allow fields "cassandra_password" password
  return {
    hosts
    port := UInt16.ofNat port
    username
    password
    connectTimeoutSeconds := UInt64.ofNat (connectTimeout.getD 10)
    statementTimeoutSeconds := UInt64.ofNat (statementTimeout.getD 30) }

end DatabaseSettings

namespace SchemaSettings

/-- The fields of the section. -/
def shape : RecordShape where
  name := "SchemaConfig"
  fields := ["replication_factor", "seed_domain"]

/-- Reads the section. -/
def read : Reader SchemaSettings := fun value => do
  let fields ← shape.fieldsOf value
  let replicationFactor ← shape.read? fields "replication_factor" (Value.readUnsigned 32)
  let seedDomain ← shape.read? fields "seed_domain" (Value.readOption Value.readText)
  let standard : SchemaSettings := {}
  return {
    replicationFactor := (replicationFactor.map UInt32.ofNat).getD standard.replicationFactor
    seedDomain := seedDomain.getD standard.seedDomain }

end SchemaSettings

namespace CertificateSettings

/-- The fields of the section. -/
def shape : RecordShape where
  name := "CertificateConfig"
  fields :=
    ["country_name", "state_name", "locality_name", "organization_name", "organization_unit",
      "common_name", "email_address", "serial_number", "validity_start_in_seconds",
      "validity_end_in_seconds", "key_bits", "cert_out", "key_out"]

/-- Reads the section. -/
def read : Reader CertificateSettings := fun value => do
  let fields ← shape.fieldsOf value
  let text (field : String) := shape.read? fields field Value.readText
  let country ← text "country_name"
  let state ← text "state_name"
  let locality ← text "locality_name"
  let organization ← text "organization_name"
  let organizationUnit ← text "organization_unit"
  let commonName ← text "common_name"
  let email ← text "email_address"
  let serialNumber ← shape.read? fields "serial_number" Value.readUInt64
  let validityStart ← shape.read? fields "validity_start_in_seconds" Value.readInt64
  let validityEnd ← shape.read? fields "validity_end_in_seconds" Value.readInt64
  let keyBits ← shape.read? fields "key_bits" Value.readUInt64
  let certificatePath ← text "cert_out"
  let keyPath ← text "key_out"
  let standard : CertificateSettings := {}
  let subject : Subject :=
    { country := country.getD standard.subject.country
      state := state.getD standard.subject.state
      locality := locality.getD standard.subject.locality
      organization := organization.getD standard.subject.organization
      organizationUnit := organizationUnit.getD standard.subject.organizationUnit
      commonName := commonName.getD standard.subject.commonName
      email := email.getD standard.subject.email
      serialNumber := (serialNumber.map UInt64.ofNat).getD standard.subject.serialNumber
      validityStart := (validityStart.map Int64.ofInt).getD standard.subject.validityStart
      validityEnd := (validityEnd.map Int64.ofInt).getD standard.subject.validityEnd }
  return {
    subject
    keyBits := (keyBits.map UInt64.ofNat).getD standard.keyBits
    certificatePath := certificatePath.getD standard.certificatePath
    keyPath := keyPath.getD standard.keyPath }

end CertificateSettings

namespace LoggingSettings

/-- The fields of the section. -/
def shape : RecordShape where
  name := "LoggingConfig"
  fields := ["level", "format"]

/-- Reads the section. -/
def read : Reader LoggingSettings := fun value => do
  let fields ← shape.fieldsOf value
  let level ← shape.read? fields "level" Value.readText
  let format ← shape.read? fields "format" Value.readText
  let standard : LoggingSettings := {}
  return { level := level.getD standard.level, format := format.getD standard.format }

end LoggingSettings

namespace Config

/-- The sections. -/
def shape : RecordShape where
  name := "Config"
  fields := ["database", "schema", "certificate", "logging"]

/-- Reads the whole configuration. -/
def read : Reader Config := fun value => do
  let fields ← shape.fieldsOf value
  let database ← shape.read? fields "database" DatabaseSettings.read
  let schema ← shape.read? fields "schema" SchemaSettings.read
  let certificate ← shape.read? fields "certificate" CertificateSettings.read
  let logging ← shape.read? fields "logging" LoggingSettings.read
  let database ← shape.require fields "database" database
  return {
    database
    schema := schema.getD {}
    certificate := certificate.getD {}
    logging := logging.getD {} }

end Config

end MailProvision
