import MailProvision.Schema.Literal
import MailProvision.Schema.Statement
import MailProvision.Schema.Table

/-!
# The schema of the mail server

The keyspace, its six tables and the optional first row of the table of local domains, as statements
in the order in which they have to run: the keyspace before its tables, the row after its table.
Only the row is added again by a second run.
-/

namespace MailProvision

namespace Schema

/-- The keyspace that holds all tables of the mail server. -/
def keyspace : String := "fannst"

/-- What can be chosen about the schema. -/
structure Options where
  /-- How many replicas the keyspace keeps. -/
  replicationFactor : UInt32 := 3
  /-- The domain put into the table of local domains; none, or an empty one, leaves it out. -/
  seedDomain : Option String := some "fannst.nl"
deriving DecidableEq, Repr

/-- Whole messages, kept by bucket. -/
def rawEmails : Table where
  name := "raw_emails"
  columns :=
    [("e_bucket", .bigint), ("e_domain", .varchar), ("e_owners_uuid", .timeuuid),
      ("e_email_uuid", .timeuuid), ("e_content", .text)]
  partitionKey := "e_bucket"
  clusteringKey := ["e_domain", "e_owners_uuid", "e_email_uuid"]
  order := .descending

/-- What a mailbox lists of a message, and the bucket that holds the whole of it. -/
def emailShortcuts : Table where
  name := "email_shortcuts"
  columns :=
    [("e_domain", .varchar), ("e_subject", .varchar), ("e_preview", .varchar),
      ("e_owners_uuid", .timeuuid), ("e_email_uuid", .timeuuid), ("e_bucket", .bigint),
      ("e_size_octets", .bigint), ("e_uid", .int), ("e_from", .varchar), ("e_flags", .int),
      ("e_mailbox", .varchar)]
  partitionKey := "e_domain"
  clusteringKey := ["e_owners_uuid", "e_mailbox", "e_email_uuid"]
  order := .descending

/-- The domains that this server takes mail for. -/
def localDomain : Table where
  name := "local_domain"
  columns := [("e_domain", .varchar), ("e_domain_uuid", .timeuuid)]
  partitionKey := "e_domain"
  clusteringKey := ["e_domain_uuid"]
  order := .natural

/-- The mailboxes of the owners, with their counts. -/
def mailboxes : Table where
  name := "mailboxes"
  columns :=
    [("e_bucket", .bigint), ("e_domain", .varchar), ("e_uuid", .timeuuid),
      ("e_mailbox_path", .varchar), ("e_mailbox_stand", .boolean), ("e_message_count", .int),
      ("e_flags", .int), ("e_subscribed", .boolean)]
  partitionKey := "e_bucket"
  clusteringKey := ["e_domain", "e_uuid", "e_mailbox_path"]
  order := .descending

/-- The accounts with all that is known of their owners. -/
def accounts : Table where
  name := "accounts"
  columns :=
    [("a_username", .varchar), ("a_picture_uri", .varchar), ("a_password", .varchar),
      ("a_domain", .varchar), ("a_bucket", .bigint), ("a_full_name", .varchar),
      ("a_birth_date", .bigint), ("a_creation_date", .bigint), ("a_rsa_public", .text),
      ("a_rsa_private", .text), ("a_gas", .double), ("a_country", .varchar),
      ("a_region", .varchar), ("a_city", .varchar), ("a_address", .varchar),
      ("a_phone", .varchar), ("a_type", .tinyint), ("a_uuid", .timeuuid), ("a_flags", .bigint),
      ("a_storage_used_bytes", .bigint), ("a_storage_max_bytes", .bigint)]
  partitionKey := "a_bucket"
  clusteringKey := ["a_domain", "a_uuid"]
  order := .descending

/-- Where the account of a user name is found. -/
def accountShortcuts : Table where
  name := "account_shortcuts"
  columns :=
    [("a_bucket", .bigint), ("a_domain", .varchar), ("a_uuid", .timeuuid),
      ("a_username", .varchar)]
  partitionKey := "a_domain"
  clusteringKey := ["a_username"]
  order := .descending

/-- The tables in the order of their creation. -/
def tables : List Table :=
  [rawEmails, emailShortcuts, localDomain, mailboxes, accounts, accountShortcuts]

/-- The statement that creates the keyspace. -/
def keyspaceText (replicationFactor : UInt32) : String :=
  "CREATE KEYSPACE IF NOT EXISTS " ++ keyspace ++
    " WITH REPLICATION = \x7b\n  'class': 'SimpleStrategy',\n  'replication_factor': " ++
    toString replicationFactor.toNat ++ "\n\x7d"

/-- The statement that adds a local domain. -/
def seedText (domain : String) : String :=
  "INSERT INTO " ++ keyspace ++ ".local_domain (e_domain, e_domain_uuid) VALUES ('" ++
    String.ofList (Literal.body domain.toList) ++ "', now())"

/-- The statement that adds the seed domain, unless there is none. -/
def seedStatements : Option String → List Statement
  | none => []
  | some domain =>
      if domain.isEmpty then [] else [Statement.append "seed_local_domain" (seedText domain)]

/-- The statements that create the schema. -/
def statements (options : Options) : List Statement :=
  Statement.idempotent "keyspace" (keyspaceText options.replicationFactor) ::
    tables.map (fun table => Statement.idempotent table.name (table.definition keyspace)) ++
    seedStatements options.seedDomain

end Schema

end MailProvision
