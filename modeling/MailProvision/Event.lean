import MailProvision.Error

/-!
# Events

What a run reports while it goes on. An event has a level, the component that reports it, a message
and named fields.
-/

namespace MailProvision

/-- How important an event is, the most important level first. -/
inductive Level where
  | error
  | warn
  | info
  | debug
  | trace
deriving DecidableEq, Repr

namespace Level

/-- The name of a level in capitals. -/
def name : Level → String
  | error => "ERROR"
  | warn => "WARN"
  | info => "INFO"
  | debug => "DEBUG"
  | trace => "TRACE"

/-- The place of a level in the order, from one for errors to five. -/
def rank : Level → Nat
  | error => 1
  | warn => 2
  | info => 3
  | debug => 4
  | trace => 5

end Level

/-- The content of a field. -/
inductive FieldValue where
  | text (value : String)
  /-- A text that is shown between quotation marks. -/
  | word (value : String)
  | number (value : Nat)
deriving DecidableEq, Repr

/-- An event of a run. Moments are given as text. -/
inductive Event where
  | starting (steps : String)
  | schemaReady (executed appended : Nat)
  | certificateReady (certificatePath keyPath expires : String)
  | complete
  | startingStep (step : String) (position total : Nat)
  | stepCompleted (step : String)
  | stepFailed (step code message : String)
  | certificateMinted (notBefore notAfter : String)
  | connecting (hosts : String) (port : Nat)
  | usingAuthentication (username : String)
  | withoutAuthentication
  | connected
  | executing (index : Nat) (label text : String)
  | repeatsData (index : Nat) (label : String)
  | schemaCompleted (executed appended : Nat)
  | generatingKey (bits : Nat)
  | signed (commonName notBefore notAfter : String)
  | staged (path temporary : String)
  | wroteKey (path : String)
  | wroteCertificate (path : String)
deriving DecidableEq, Repr

namespace Event

/-- The level of an event. -/
def level : Event → Level
  | stepFailed .. => .error
  | repeatsData .. => .warn
  | usingAuthentication _ | withoutAuthentication | signed .. | staged .. => .debug
  | _ => .info

/-- The component that reports an event. -/
def component : Event → String
  | starting _ | schemaReady .. | certificateReady .. | complete => "fsmtp_provision"
  | startingStep .. | stepCompleted _ | stepFailed .. | certificateMinted .. =>
      "fsmtp_provision::steps"
  | connecting .. | usingAuthentication _ | withoutAuthentication | connected => "fsmtp_schema::db"
  | executing .. | repeatsData .. | schemaCompleted .. => "fsmtp_schema::provisioner"
  | generatingKey _ | signed .. | wroteKey _ | wroteCertificate _ => "fsmtp_certs::minter"
  | staged .. => "fsmtp_certs::persist"

/-- The message of an event. -/
def message : Event → String
  | starting _ => "Starting FSMTP provisioning"
  | schemaReady .. => "Schema ready"
  | certificateReady .. => "Certificate ready"
  | complete => "FSMTP provisioning complete"
  | startingStep .. => "Starting step"
  | stepCompleted _ => "Step completed"
  | stepFailed .. => "Step failed"
  | certificateMinted .. => "Certificate minted"
  | connecting .. => "Connecting to cluster"
  | usingAuthentication _ => "Using plaintext authentication"
  | withoutAuthentication => "Connecting without authentication"
  | connected => "Cluster connection established"
  | executing .. => "Executing schema statement"
  | repeatsData .. => "Statement is not idempotent, re-running duplicates its rows"
  | schemaCompleted .. => "Schema provisioning completed"
  | generatingKey _ => "Generating RSA key"
  | signed .. => "Signed certificate"
  | staged .. => "Staged file"
  | wroteKey _ => "Wrote private key"
  | wroteCertificate _ => "Wrote certificate"

/-- The fields of an event in order. -/
def fields : Event → List (String × FieldValue)
  | starting steps => [("steps", .text steps)]
  | schemaReady executed appended =>
      [("executed", .number executed), ("non_idempotent", .number appended)]
  | certificateReady certificatePath keyPath expires =>
      [("cert", .text certificatePath), ("key", .text keyPath), ("expires", .text expires)]
  | complete => []
  | startingStep step position total =>
      [("step", .word step), ("position", .number position), ("total", .number total)]
  | stepCompleted step => [("step", .word step)]
  | stepFailed step code message =>
      [("step", .word step), ("code", .word code), ("error", .text message)]
  | certificateMinted notBefore notAfter =>
      [("not_before", .text notBefore), ("not_after", .text notAfter)]
  | connecting hosts port => [("hosts", .text hosts), ("port", .number port)]
  | usingAuthentication username => [("username", .text username)]
  | withoutAuthentication => []
  | connected => []
  | executing index label text =>
      [("index", .number index), ("label", .word label), ("statement", .text text)]
  | repeatsData index label => [("index", .number index), ("label", .word label)]
  | schemaCompleted executed appended =>
      [("executed", .number executed), ("non_idempotent", .number appended)]
  | generatingKey bits => [("bits", .number bits)]
  | signed commonName notBefore notAfter =>
      [("common_name", .text commonName), ("not_before", .text notBefore),
        ("not_after", .text notAfter)]
  | staged path temporary => [("path", .text path), ("temp", .text temporary)]
  | wroteKey path => [("path", .text path)]
  | wroteCertificate path => [("path", .text path)]

end Event

end MailProvision
