import MailProvision.Certificate.Fault
import MailProvision.Config.Basic

/-!
# Errors of a provisioning run

Everything that can end a run: the configuration, the cluster, or the certificate. Each error has a
short code and a text.
-/

namespace MailProvision

/-- Why the schema is not provisioned. -/
inductive ProvisionError where
  /-- No session could be opened. -/
  | connection (hosts reason : String)
  /-- The store refused a statement. -/
  | statement (index : Nat) (text reason : String)
  /-- A statement did not complete in the time allowed for one. -/
  | timeout (index : Nat) (text : String) (limit : Duration)
deriving DecidableEq, Repr

namespace ProvisionError

/-- The short name of the kind of error. -/
def code : ProvisionError → String
  | connection .. => "CONNECTION_ERROR"
  | statement .. => "STATEMENT_ERROR"
  | timeout .. => "TIMEOUT"

/-- The error in words. -/
def message : ProvisionError → String
  | connection hosts reason => "Connection to cluster [" ++ hosts ++ "] failed: " ++ reason
  | statement index text reason =>
      "Statement #" ++ toString index ++ " rejected: " ++ reason ++ "\n" ++ text
  | timeout index text limit =>
      "Statement #" ++ toString index ++ " timed out after " ++ limit.toText ++ "\n" ++ text

/-- Whether the connection is to blame. A timeout counts as a failure of the connection. -/
def isConnectionFailure : ProvisionError → Bool
  | connection .. => true
  | statement .. => false
  | timeout .. => true

/-- The position of the statement that failed. -/
def statementIndex? : ProvisionError → Option Nat
  | connection .. => none
  | statement index _ _ => some index
  | timeout index _ _ => some index

end ProvisionError

/-- What ends a run. -/
inductive Error where
  | config (fault : ConfigFault)
  | provision (error : ProvisionError)
  | mint (error : MintError)
deriving DecidableEq, Repr

namespace Error

/-- The short name of the kind of error. -/
def code : Error → String
  | config _ => "CONFIG_ERROR"
  | provision error => error.code
  | mint error => error.code

/-- The error in words. -/
def message : Error → String
  | config fault => "Configuration error: " ++ fault.message
  | provision error => error.message
  | mint error => error.message

/-- The texts of the causes below the error. -/
def causes : Error → List String
  | mint error => error.causes
  | _ => []

end Error

end MailProvision
