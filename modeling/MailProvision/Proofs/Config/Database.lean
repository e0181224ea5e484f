import Mathlib.Data.List.Forall2
import MailProvision.Error
import MailProvision.Proofs.Action
import MailProvision.Proofs.Checks
import MailProvision.Proofs.Text.Trimming

/-!
# From the database section to credentials

Four keys of the section are checked in order, and the first whose value is not sound is the one
that the refusal names (`credentials_of_unsound`). What credentials come of a sound section is said
of the texts that stand in it (`Describes`), with the library's `List.splitOn` for the commas.
-/

namespace MailProvision

/-- A key of the database section whose value can be refused. -/
inductive DatabaseKey where
  | hosts
  | port
  | connectTimeout
  | statementTimeout
deriving DecidableEq, Repr

namespace DatabaseKey

/-- The keys in the order in which they are checked. -/
def inOrder : List DatabaseKey :=
  [hosts, port, connectTimeout, statementTimeout]

theorem mem_inOrder (key : DatabaseKey) : key ∈ inOrder := by
  cases key <;> decide

/-- A key as it is written. -/
def name : DatabaseKey → String
  | hosts => "cassandra_hosts"
  | port => "cassandra_native"
  | connectTimeout => "connect_timeout_secs"
  | statementTimeout => "statement_timeout_secs"

/-- What the value of a key must do. -/
def demand : DatabaseKey → String
  | hosts => "list at least one host"
  | port => "be a non-zero port"
  | connectTimeout => "be at least 1"
  | statementTimeout => "be at least 1"

/-- How a value that is not sound is refused. -/
def fault : DatabaseKey → ConfigFault
  | hosts => .noHosts
  | port => .zeroPort
  | connectTimeout => .zeroTimeout connectTimeout.name
  | statementTimeout => .zeroTimeout statementTimeout.name

theorem message_fault (key : DatabaseKey) : (Error.config key.fault).message =
    "Configuration error: database." ++ key.name ++ " must " ++ key.demand := by
  cases key <;> decide

end DatabaseKey

namespace Credentials

theorem authentication_eq_some_iff {credentials : Credentials} {username password : String} :
    credentials.authentication = some (username, password) ↔
      credentials.username = some username ∧ credentials.password = some password := by
  rw [authentication]
  cases credentials.username with
  | none => simp
  | some user =>
      cases credentials.password with
      | none => simp
      | some secret => simp

/-- The text is a host of the credentials, in brackets or not, with their port after a colon. -/
def IsContact (credentials : Credentials) (point : String) : Prop :=
  ∃ host ∈ credentials.hosts, host ≠ "" ∧
    (point = host ++ ":" ++ toString credentials.port.toNat ∨
      point = "[" ++ host ++ "]:" ++ toString credentials.port.toNat)

theorem contactPoint_cases (port : UInt16) (host : String) :
    contactPoint port host = host ++ ":" ++ toString port.toNat ∨
      contactPoint port host = "[" ++ host ++ "]:" ++ toString port.toNat := by
  have digits : (toString port.toNat).toList = Nat.toDigits 10 port.toNat := String.toList_ofList
  simp only [contactPoint, ← String.toList_inj, String.toList_append, String.toList_ofList, digits]
  split
  · right
    simp
  · left
    simp

theorem isContact_of_mem {credentials : Credentials} (named : ∀ host ∈ credentials.hosts, host ≠ "")
    {point : String} (member : point ∈ credentials.contactPoints) :
    credentials.IsContact point := by
  rcases List.mem_map.mp member with ⟨host, listed, rfl⟩
  exact ⟨host, listed, named host listed, contactPoint_cases credentials.port host⟩

/-- The part of a list of hosts is more than white space. -/
def namesHost (part : List Char) : Bool :=
  part.any fun c => !Text.isBlank c

theorem namesHost_iff {part : List Char} :
    namesHost part = true ↔ ∃ c ∈ part, Text.isBlank c = false := by
  simp [namesHost]

/-- Those parts of a list of hosts are kept that hold more than white space, each without the white
space around it. -/
theorem trims_parts (parts : List (List Char)) :
    List.Forall₂ Text.Trims (parts.filter namesHost)
      (((parts.map Text.trimChars).filterMap fun host =>
        if host.isEmpty then none else some (String.ofList host)).map String.toList) := by
  induction parts with
  | nil => exact .nil
  | cons part rest ih =>
      by_cases blank : Text.trimChars part = []
      · have dropped : ¬namesHost part = true := by
          rw [namesHost_iff, ← Text.trimChars_ne_nil_iff]
          exact not_not_intro blank
        rw [List.filter_cons_of_neg dropped, List.map_cons, blank, List.filterMap_cons_none rfl]
        exact ih
      · have kept : namesHost part = true := namesHost_iff.2 (Text.trimChars_ne_nil_iff.1 blank)
        have written : (if (Text.trimChars part).isEmpty then none
            else some (String.ofList (Text.trimChars part))) =
              some (String.ofList (Text.trimChars part)) := by
          simp [blank]
        simp only [List.filter_cons_of_pos kept, List.map_cons, List.filterMap_cons, written,
          String.toList_ofList]
        exact .cons (Text.trims_trimChars part) ih

theorem ne_empty_of_mem_parseHosts {list host : String} (member : host ∈ parseHosts list) :
    host ≠ "" := by
  rcases List.mem_filterMap.mp member with ⟨chars, _, kept⟩
  cases chars with
  | nil => cases kept
  | cons c rest =>
      rw [← Option.some.inj kept]
      exact fun empty => by simpa using congrArg String.toList empty

end Credentials

namespace DatabaseSettings

variable (database : DatabaseSettings)

/-- Those parts of the list of hosts that hold more than white space. -/
def hostParts : List (List Char) :=
  (database.hosts.toList.splitOn ',').filter Credentials.namesHost

/-- Whether the value of a key is as it should be. -/
def Sound : DatabaseKey → Prop
  | .hosts => ∃ part ∈ database.hosts.toList.splitOn ',', ∃ c ∈ part, Text.isBlank c = false
  | .port => database.port ≠ 0
  | .connectTimeout => 1 ≤ database.connectTimeoutSeconds.toNat
  | .statementTimeout => 1 ≤ database.statementTimeoutSeconds.toNat

-- A character is looked for in the part; Mathlib would try all characters there are.
instance : DecidablePred database.Sound
  | .hosts =>
      have := fun part => List.decidableBEx (Text.isBlank · = false) part
      List.decidableBEx (fun part => ∃ c ∈ part, Text.isBlank c = false) _
  | .port => inferInstanceAs (Decidable (_ ≠ _))
  | .connectTimeout => inferInstanceAs (Decidable (_ ≤ _))
  | .statementTimeout => inferInstanceAs (Decidable (_ ≤ _))

/-- The credentials say what the section says: the hosts in their order, the port, and a user only
if both halves of the pair are there and not empty. -/
structure Describes (credentials : Credentials) : Prop where
  hosts : List.Forall₂ Text.Trims database.hostParts (credentials.hosts.map String.toList)
  port : credentials.port = database.port
  authentication : ∀ username password,
    credentials.authentication = some (username, password) ↔
      database.username = some username ∧ database.password = some password ∧
        username ≠ "" ∧ password ≠ ""

/-- The credentials of the section once it has passed. -/
def described : Credentials where
  hosts := Credentials.parseHosts database.hosts
  port := database.port
  username := nonEmpty database.username
  password := nonEmpty database.password

theorem nonEmpty_eq_some_iff {text : Option String} {value : String} :
    nonEmpty text = some value ↔ text = some value ∧ value ≠ "" := by
  rw [nonEmpty, Option.filter_eq_some_iff]
  simp

theorem trims_parseHosts : List.Forall₂ Text.Trims database.hostParts
    ((Credentials.parseHosts database.hosts).map String.toList) := by
  rw [hostParts, Credentials.parseHosts, Text.splitChars_eq_splitOn]
  exact Credentials.trims_parts _

theorem parseHosts_ne_nil_iff :
    Credentials.parseHosts database.hosts ≠ [] ↔ database.Sound .hosts := by
  have lengths := database.trims_parseHosts.length_eq
  rw [List.length_map] at lengths
  rw [ne_eq, ← List.length_eq_zero_iff, ← lengths, List.length_eq_zero_iff, hostParts,
    List.filter_eq_nil_iff]
  simp [Sound, Credentials.namesHost_iff]

theorem describes_described : database.Describes database.described where
  hosts := database.trims_parseHosts
  port := rfl
  authentication username password := by
    rw [Credentials.authentication_eq_some_iff, described, nonEmpty_eq_some_iff,
      nonEmpty_eq_some_iff, and_and_and_comm, and_assoc]

/-- The keys are checked in their order. -/
theorem credentials_eq : database.credentials =
    (checkAll database.Sound DatabaseKey.fault DatabaseKey.inOrder).map
      fun _ => database.described := by
  have hosts : (Credentials.parseHosts database.hosts).isEmpty = true ↔ ¬database.Sound .hosts := by
    rw [← parseHosts_ne_nil_iff, not_not, List.isEmpty_iff]
  have port : database.port = 0 ↔ ¬database.Sound .port := by rw [Sound, not_not]
  have connectTimeout : database.connectTimeoutSeconds = 0 ↔ ¬database.Sound .connectTimeout := by
    rw [Sound, ← UInt64.toNat_inj, UInt64.toNat_zero, Nat.not_le, Nat.lt_one_iff]
  have statementTimeout :
      database.statementTimeoutSeconds = 0 ↔ ¬database.Sound .statementTimeout := by
    rw [Sound, ← UInt64.toNat_inj, UInt64.toNat_zero, Nat.not_le, Nat.lt_one_iff]
  rw [credentials, if_congr hosts rfl rfl, if_congr port rfl rfl, if_congr connectTimeout rfl rfl,
    if_congr statementTimeout rfl rfl]
  simp only [ite_not, DatabaseKey.inOrder, checkAll, apply_ite (Except.map _)]
  rfl

variable {database}

theorem credentials_eq_ok_iff {credentials : Credentials} :
    database.credentials = .ok credentials ↔
      (∀ key, database.Sound key) ∧ credentials = database.described := by
  rw [credentials_eq]
  rcases checkAll_cases database.Sound DatabaseKey.fault DatabaseKey.inOrder with
    ⟨each, accepted⟩ | ⟨key, first, refused⟩
  · have sound : ∀ key, database.Sound key := fun key => each key key.mem_inOrder
    rw [accepted, map_ok, Except.ok.injEq, eq_comm]
    exact (and_iff_right sound).symm
  · rw [refused, map_error]
    apply iff_of_false
    · rintro ⟨⟩
    · rintro ⟨sound, _⟩
      exact first.fails (sound key)

theorem credentials_of_unsound {key : DatabaseKey}
    (first : FirstFailing database.Sound DatabaseKey.inOrder key) :
    database.credentials = .error key.fault := by
  rw [credentials_eq, first.checkAll_eq, map_error]

section Usable

variable {credentials : Credentials} (usable : database.credentials = .ok credentials)
include usable

theorem describes_of_usable : database.Describes credentials := by
  rw [(credentials_eq_ok_iff.1 usable).2]
  exact database.describes_described

theorem ne_empty_of_mem_hosts {host : String} (listed : host ∈ credentials.hosts) : host ≠ "" := by
  rw [(credentials_eq_ok_iff.1 usable).2] at listed
  exact Credentials.ne_empty_of_mem_parseHosts listed

theorem le_statementTimeout : 1000000000 ≤ database.statementTimeout.nanoseconds := by
  have long : 1 ≤ database.statementTimeoutSeconds.toNat :=
    (credentials_eq_ok_iff.1 usable).1 .statementTimeout
  simp only [statementTimeout, Duration.ofSeconds]
  omega

end Usable

end DatabaseSettings

end MailProvision
