import MailProvision.Certificate.Calendar
import MailProvision.Certificate.Key
import MailProvision.Certificate.Name

/-!
# Certificates

A certificate is a body with a signature over the bytes of the body. The body says whom it names,
for how long it holds, and which key it certifies. `Certificate.ofPem?` reads back what
`Certificate.toPem` writes.
-/

namespace MailProvision

/-- The two ways to write a moment. -/
inductive TimeForm where
  /-- With two digits for the year, from 1950 to 2049. -/
  | utc
  /-- With four digits for the year. -/
  | generalized
deriving DecidableEq, Repr

namespace TimeForm

/-- The name of a form. -/
def name : TimeForm → String
  | utc => "UTCTime"
  | generalized => "GeneralizedTime"

/-- The form that a year takes: two digits wherever they can stand for it. -/
def ofYear (year : Int) : TimeForm :=
  if 1950 ≤ year ∧ year ≤ 2049 then utc else generalized

end TimeForm

/-- A moment with the form in which it is written. -/
structure CertificateTime where
  form : TimeForm
  /-- Seconds from the start of 1970. -/
  seconds : Int
deriving DecidableEq, Repr

namespace CertificateTime

/-- Whether a moment can be written: its year has no sign and at most four digits. The encoder of
the `yasna` package demands it. -/
def isWritable (seconds : Int) : Bool :=
  let year := (CalendarTime.ofSeconds seconds).year
  0 ≤ year && year ≤ 9999

/-- A moment in the form that its year takes. -/
def ofSeconds (seconds : Int) : CertificateTime :=
  { form := .ofYear (CalendarTime.ofSeconds seconds).year, seconds }

/-- The characters from the month on. -/
def charsFromMonth (time : CalendarTime) : List Char :=
  [time.month, time.day, time.hour, time.minute, time.second].flatMap (CalendarTime.padded 2) ++
    ['Z']

/-- The bytes of characters below code point 256. -/
def bytesOfChars (chars : List Char) : List UInt8 :=
  chars.map fun c => UInt8.ofNat c.toNat

/-- A moment as a value. Only moments that can be written are signed. -/
def toDer (time : CertificateTime) : Der :=
  let civil := CalendarTime.ofSeconds time.seconds
  match time.form with
  | .utc =>
      .primitive 0x17
        (bytesOfChars (CalendarTime.padded 2 (civil.year % 100).toNat ++ charsFromMonth civil))
  | .generalized =>
      .primitive 0x18
        (bytesOfChars (CalendarTime.padded 4 civil.year.toNat ++ charsFromMonth civil))

/-- The number that two digits stand for. -/
def pair? (a b : Char) : Option Nat := do
  some ((← Numeral.digit? a) * 10 + (← Numeral.digit? b))

/-- Reads the characters from the month on. -/
def ofChars? (form : TimeForm) (year : Nat) : List Char → Option CertificateTime
  | [m₁, m₂, d₁, d₂, h₁, h₂, n₁, n₂, s₁, s₂, 'Z'] => do
      let civil : CalendarTime :=
        { year
          month := ← pair? m₁ m₂
          day := ← pair? d₁ d₂
          hour := ← pair? h₁ h₂
          minute := ← pair? n₁ n₂
          second := ← pair? s₁ s₂ }
      some { form, seconds := civil.toSeconds }
  | _ => none

/-- The moment that a value holds. -/
def ofDer? : Der → Option CertificateTime
  | .primitive tag content =>
      match tag, content.map fun byte => Char.ofNat byte.toNat with
      | 0x17, y₁ :: y₂ :: rest => do
          let year ← pair? y₁ y₂
          ofChars? .utc (if year < 50 then 2000 + year else 1900 + year) rest
      | 0x18, y₁ :: y₂ :: y₃ :: y₄ :: rest => do
          ofChars? .generalized ((← pair? y₁ y₂) * 100 + (← pair? y₃ y₄)) rest
      | _, _ => none
  | .constructed .. => none

end CertificateTime

/-- An addition to a certificate. -/
structure CertificateExtension where
  id : Der.ObjectId
  critical : Bool
  content : List UInt8
deriving DecidableEq, Repr

namespace CertificateExtension

/-- An extension as a value. -/
def toDer (item : CertificateExtension) : Der :=
  .sequence <|
    [.objectId item.id] ++ (if item.critical then [.primitive 0x01 [0xff]] else []) ++
      [.octetString item.content]

/-- The extension that a value holds. -/
def ofDer? : Der → Option CertificateExtension
  | .constructed 0x30 [id, content] => do
      some { id := ← Der.objectId? id, critical := false, content := ← Der.octetString? content }
  | .constructed 0x30 [id, .primitive 0x01 [flag], content] => do
      some
        { id := ← Der.objectId? id
          critical := flag ≠ 0
          content := ← Der.octetString? content }
  | _ => none

end CertificateExtension

/-- What a certificate says. -/
structure CertificateBody where
  version : Nat
  serialNumber : Nat
  /-- The algorithm of the signature. -/
  algorithm : Algorithm
  issuer : DistinguishedName
  notBefore : CertificateTime
  notAfter : CertificateTime
  subject : DistinguishedName
  /-- The algorithm that the key is for. -/
  keyAlgorithm : Algorithm
  publicKey : PublicKey
  extensions : List CertificateExtension
deriving DecidableEq, Repr

namespace CertificateBody

/-- The body as a value. -/
def toDer (body : CertificateBody) : Der :=
  .sequence <|
    [.constructed 0xa0 [.integer (body.version - 1)],
      .integer body.serialNumber,
      body.algorithm.toDer,
      body.issuer.toDer,
      .sequence [body.notBefore.toDer, body.notAfter.toDer],
      body.subject.toDer,
      body.publicKey.toDer body.keyAlgorithm] ++
    if body.extensions.isEmpty then []
    else [.constructed 0xa3 [.sequence (body.extensions.map CertificateExtension.toDer)]]

/-- The extensions after the other parts of a body. -/
def extensionsOfDer? : List Der → Option (List CertificateExtension)
  | [] => some []
  | [.constructed 0xa3 [.constructed 0x30 items]] => items.mapM CertificateExtension.ofDer?
  | _ => none

/-- The body that a value holds. -/
def ofDer? : Der → Option CertificateBody
  | .constructed 0x30
      (.constructed 0xa0 [version] :: serialNumber :: algorithm :: issuer ::
        .constructed 0x30 [notBefore, notAfter] :: subject :: key :: rest) => do
      let (keyAlgorithm, publicKey) ← PublicKey.ofDer? key
      some
        { version := (← Der.integer? version) + 1
          serialNumber := ← Der.integer? serialNumber
          algorithm := ← Algorithm.ofDer? algorithm
          issuer := ← DistinguishedName.ofDer? issuer
          notBefore := ← CertificateTime.ofDer? notBefore
          notAfter := ← CertificateTime.ofDer? notAfter
          subject := ← DistinguishedName.ofDer? subject
          keyAlgorithm
          publicKey
          extensions := ← extensionsOfDer? rest }
  | _ => none

end CertificateBody

/-- A body with its signature. -/
structure Certificate where
  body : CertificateBody
  algorithm : Algorithm
  signature : List UInt8
deriving DecidableEq, Repr

namespace Certificate

/-- The certificate as a value. -/
def toDer (certificate : Certificate) : Der :=
  .sequence
    [certificate.body.toDer, certificate.algorithm.toDer, .bitString certificate.signature]

/-- The certificate that a value holds. -/
def ofDer? : Der → Option Certificate
  | .constructed 0x30 [body, algorithm, signature] => do
      some
        { body := ← CertificateBody.ofDer? body
          algorithm := ← Algorithm.ofDer? algorithm
          signature := ← Der.bitString? signature }
  | _ => none

/-- The label of a written certificate. -/
def label : String := "CERTIFICATE"

/-- The certificate as text. -/
def toPem (certificate : Certificate) : String :=
  Pem.encode label certificate.toDer.encode

/-- The certificate that a text holds. -/
def ofPem? (text : String) : Option Certificate := do
  let bytes ← Pem.decode? label text
  ofDer? (← Der.decode? bytes)

/-- A certificate that names the same party as subject and issuer and is signed by the key that it
certifies. -/
def selfSigned (key : PrivateKey) (name : DistinguishedName) (serialNumber : Nat)
    (notBefore notAfter : Int) : Certificate :=
  let body : CertificateBody :=
    { version := 3
      serialNumber
      algorithm := .rsaWithSha512
      issuer := name
      notBefore := .ofSeconds notBefore
      notAfter := .ofSeconds notAfter
      subject := name
      keyAlgorithm := .rsa
      publicKey := key.publicKey
      extensions := [] }
  { body, algorithm := .rsaWithSha512, signature := key.sign body.toDer.encode }

/-- Whether the signature was made with the secret of a key. -/
def isSignedBy (certificate : Certificate) (key : PublicKey) : Bool :=
  key.verifies certificate.body.toDer.encode certificate.signature

end Certificate

end MailProvision
