import MailProvision.Text.Blank

/-!
# The subject of a certificate

Whom a certificate names and for how long it holds. `Subject.check` refuses a subject before any key
is made; the first condition that fails, in the order of the constructors of `SubjectFault`, is the
one reported.
-/

namespace MailProvision

/-- Ten years of 365 days in seconds. -/
def tenYears : Int64 := 10 * 365 * 24 * 60 * 60

/-- The name and the validity of a self-signed certificate. -/
structure Subject where
  country : String := "CN"
  state : String := "State"
  locality : String := "Locality"
  organization : String := "Organization"
  organizationUnit : String := "Unit"
  commonName : String := "example.com"
  email : String := "someone@example.com"
  serialNumber : UInt64 := 0
  /-- Seconds from the moment of minting until the certificate becomes valid. -/
  validityStart : Int64 := 0
  /-- Seconds from the moment of minting until the certificate expires. -/
  validityEnd : Int64 := tenYears
deriving DecidableEq, Repr

/-- Why a subject is refused. -/
inductive SubjectFault where
  | emptyValidity (start finish : Int64)
  | blankCommonName
  | countryNotCode (country : String)
  | emailNotAscii (email : String)
  /-- The moment of minting plus the offset is no representable date. -/
  | offsetOutOfRange (offset : Int64)
deriving DecidableEq, Repr

namespace SubjectFault

/-- The explanation of a refusal. -/
def message : SubjectFault → String
  | emptyValidity start finish =>
      "validity end (" ++ toString finish.toInt ++ "s) must be after validity start (" ++
        toString start.toInt ++ "s)"
  | blankCommonName => "common name must not be empty"
  | countryNotCode country => "country name '" ++ country ++ "' must be a two-letter code"
  | emailNotAscii email => "email address '" ++ email ++ "' must be ASCII"
  | offsetOutOfRange offset => "validity offset " ++ toString offset.toInt ++ "s is out of range"

end SubjectFault

namespace Subject

/-- An ASCII letter of either case. -/
def isAsciiLetter (c : Char) : Bool :=
  ('a' ≤ c && c ≤ 'z') || ('A' ≤ c && c ≤ 'Z')

/-- Exactly two ASCII letters. -/
def isCountryCode (country : String) : Bool :=
  country.length = 2 && country.toList.all isAsciiLetter

/-- Characters below code point 128 only. -/
def isAscii (text : String) : Bool :=
  text.toList.all fun c => c.toNat < 128

/-- Refuses a subject that ends before it starts, names nobody, or cannot be encoded. -/
def check (subject : Subject) : Except SubjectFault Unit :=
  if subject.validityEnd ≤ subject.validityStart then
    .error (.emptyValidity subject.validityStart subject.validityEnd)
  else if (Text.trimChars subject.commonName.toList).isEmpty then
    .error .blankCommonName
  else if !subject.country.isEmpty && !isCountryCode subject.country then
    .error (.countryNotCode subject.country)
  else if !isAscii subject.email then
    .error (.emailNotAscii subject.email)
  else
    .ok ()

/-- The length of the validity in seconds, where it is a 64-bit number. -/
def validitySeconds? (subject : Subject) : Option Int64 :=
  let seconds := subject.validityEnd.toInt - subject.validityStart.toInt
  if Int64.minValue.toInt ≤ seconds ∧ seconds ≤ Int64.maxValue.toInt then
    some (Int64.ofInt seconds)
  else
    none

end Subject

end MailProvision
