import MailProvision.Certificate.Subject
import MailProvision.Files.Fault

/-!
# Why a certificate is not minted

The causes in the order in which they can arise: the subject, the key, the signature, and the two
files.
-/

namespace MailProvision

/-- Why there is no key. -/
inductive KeyFault where
  | sizeOutside (bits least greatest : Nat)
  /-- The key was made, but cannot be used for signing. -/
  | notLoadable (reason : String)
  /-- Any other cause, in words. -/
  | other (text : String)
deriving DecidableEq, Repr

namespace KeyFault

/-- The cause in words. -/
def message : KeyFault → String
  | sizeOutside bits least greatest =>
      "RSA key size " ++ toString bits ++ " outside " ++ toString least ++ "..=" ++
        toString greatest
  | notLoadable reason => "Failed to load signing key: " ++ reason
  | other text => text

end KeyFault

/-- Why a subject cannot be part of a certificate. -/
inductive NameFault where
  /-- It is refused by the checks that come before the key. -/
  | refused (fault : SubjectFault)
  /-- The country does not fit the alphabet of its string type. -/
  | countryAlphabet (country : String)
  /-- The e-mail address does not fit the alphabet of its string type. -/
  | emailAlphabet (email : String)
  /-- Any other cause, in words. -/
  | other (text : String)
deriving DecidableEq, Repr

namespace NameFault

/-- The cause in words. -/
def message : NameFault → String
  | refused fault => fault.message
  | countryAlphabet country => "country name: '" ++ country ++ "' is not a printable string"
  | emailAlphabet email => "email address: '" ++ email ++ "' is not an ASCII string"
  | other text => text

end NameFault

/-- Why a certificate is not minted. -/
inductive MintError where
  | invalidSubject (fault : NameFault)
  | keyGeneration (fault : KeyFault)
  | signing (text : String)
  /-- A file at a path cannot be written. -/
  | persistence (path : String) (cause : FileFault)
deriving DecidableEq, Repr

namespace MintError

/-- The short name of the kind of error. -/
def code : MintError → String
  | invalidSubject _ => "INVALID_SUBJECT"
  | keyGeneration _ => "KEYGEN_ERROR"
  | signing _ => "SIGNING_ERROR"
  | persistence .. => "PERSISTENCE_ERROR"

/-- The error in words. -/
def message : MintError → String
  | invalidSubject fault => "Invalid certificate subject: " ++ fault.message
  | keyGeneration fault => "Key generation failed: " ++ fault.message
  | signing text => "Certificate signing failed: " ++ text
  | persistence path cause => "Failed to write " ++ path ++ ": " ++ cause.message

/-- The texts of the causes below the error. -/
def causes : MintError → List String
  | persistence _ cause => [cause.message]
  | _ => []

end MintError

end MailProvision
