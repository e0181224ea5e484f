import MailProvision.Certificate.Basic
import MailProvision.Certificate.KeySource
import MailProvision.Files.Staged

/-!
# Minting certificates

A certificate is minted in two stages. First key and certificate are made in memory; everything that
can be checked is checked before the key. Then both are staged before either destination is touched,
and the key is put in place before the certificate.
-/

namespace MailProvision

/-- What minting works with. -/
structure Workshop where
  disk : Disk
  /-- The moment of minting in nanoseconds from the start of 1970. -/
  clock : Int
  keys : KeySource
deriving DecidableEq, Repr

/-- A new key and its certificate, not yet written. -/
structure KeyMaterial where
  certificatePem : String
  privateKeyPem : String
  notBefore : Int
  notAfter : Int
deriving DecidableEq, Repr

/-- Where a certificate and its key were written, and from when to when the certificate holds. -/
structure MintedCertificate where
  certificatePath : String
  keyPath : String
  notBefore : Int
  notAfter : Int
deriving DecidableEq, Repr

/-- The size of keys unless another one is chosen, in bits. -/
def defaultKeyBits : Nat := 4096

/-- The least size of keys. -/
def leastKeyBits : Nat := 2048

/-- The greatest size of keys. -/
def greatestKeyBits : Nat := 8192

/-- The mode of key files: nobody but the owner may read them. -/
def keyFileMode : Nat := 0o600

/-- The mode of certificate files. -/
def certificateFileMode : Nat := 0o644

namespace Workshop

/-- The moment of minting in whole seconds. -/
def seconds (workshop : Workshop) : Int :=
  workshop.clock / 1000000000

/-- A new key. -/
def drawKey (bits : Nat) : Action Workshop (Halt MintError) PrivateKey := fun workshop =>
  let (key, keys) := workshop.keys.draw bits
  { result := .ok key, state := { workshop with keys }, trace := [] }

/-- Work on the disk; a file that cannot be written ends the minting. -/
def onDisk {Value : Type} (action : Action Disk WriteFault Value) :
    Action Workshop (Halt MintError) Value :=
  (action.within Workshop.disk fun disk workshop => { workshop with disk }).mapFailure
    fun fault => .failure (.persistence fault.path fault.cause)

end Workshop

/-- Refuses sizes of keys that are not allowed. -/
def checkKeyBits (bits : Nat) : Except KeyFault Unit :=
  if leastKeyBits ≤ bits ∧ bits ≤ greatestKeyBits then .ok ()
  else .error (.sizeOutside bits leastKeyBits greatestKeyBits)

/-- Whether keys of a size can sign: two primes of a whole number of 512 bits, and a modulus of at
most 4096. The `ring` package, which signs for `rcgen`, loads no others. -/
def canSign (bits : Nat) : Bool :=
  bits % 1024 = 0 && 2048 ≤ bits && bits ≤ 4096

/-- Refuses sizes of keys that cannot sign. -/
def checkCanSign (bits : Nat) : Except KeyFault Unit :=
  if canSign bits then .ok ()
  else .error (.notLoadable "keys of this size cannot sign")

/-- A moment moved by an offset, if that is a date. -/
def offsetFrom (seconds : Int) (offset : Int64) : Except SubjectFault Int :=
  let moved := seconds + offset.toInt
  if CalendarTime.isRepresentable moved then .ok moved else .error (.offsetOutOfRange offset)

/-- Refuses a subject, as part of minting. -/
def refuseSubject {Value : Type} (result : Except SubjectFault Value) :
    Action Workshop (Halt MintError) Value :=
  Action.ofExcept (result.mapError fun fault => .failure (.invalidSubject (.refused fault)))

/-- Refuses a size of keys, as part of minting. -/
def refuseKey (result : Except KeyFault Unit) : Action Workshop (Halt MintError) Unit :=
  Action.ofExcept (result.mapError fun fault => .failure (.keyGeneration fault))

/-- Names a subject, as part of minting. -/
def nameSubject (subject : Subject) : Action Workshop (Halt MintError) DistinguishedName :=
  Action.ofExcept
    ((DistinguishedName.ofSubject subject).mapError fun fault => .failure (.invalidSubject fault))

/-- Signs a certificate with its own key, as the `rcgen` package does. Its encoder panics at a date
that it cannot write. -/
def signCertificate (key : PrivateKey) (name : DistinguishedName) (serialNumber : Nat)
    (notBefore notAfter : Int) : Action Workshop (Halt MintError) Certificate :=
  if CertificateTime.isWritable notBefore && CertificateTime.isWritable notAfter then
    Action.done (.selfSigned key name serialNumber notBefore notAfter)
  else Action.fail .panic

/-- Makes a key and a certificate for a subject. -/
def KeyMaterial.generate (bits : Nat) (subject : Subject) :
    Action Workshop (Halt MintError) KeyMaterial := do
  refuseSubject subject.check
  refuseKey (checkKeyBits bits)
  let seconds ← Action.gets Workshop.seconds
  let notBefore ← refuseSubject (offsetFrom seconds subject.validityStart)
  let notAfter ← refuseSubject (offsetFrom seconds subject.validityEnd)
  Action.report (.generatingKey bits)
  refuseKey (checkCanSign bits)
  let key ← Workshop.drawKey bits
  let name ← nameSubject subject
  let certificate ← signCertificate key name subject.serialNumber.toNat notBefore notAfter
  Action.report
    (.signed subject.commonName (CalendarTime.describe notBefore)
      (CalendarTime.describe notAfter))
  return {
    certificatePem := certificate.toPem
    privateKeyPem := key.toPem
    notBefore
    notAfter }

/-- Writes a key and a certificate to their files, the key first. -/
def KeyMaterial.write (material : KeyMaterial) (certificatePath keyPath : String) :
    Action Disk WriteFault (String × String) := do
  let key ← StagedFile.stage keyPath material.privateKeyPem.toUTF8.toList keyFileMode
  let certificate ←
    (StagedFile.stage certificatePath material.certificatePem.toUTF8.toList
      certificateFileMode).onFailure key.discard
  let keyPath ← key.commit.onFailure certificate.discard
  Action.report (.wroteKey keyPath)
  let certificatePath ← certificate.commit
  Action.report (.wroteCertificate certificatePath)
  return (certificatePath, keyPath)

/-- Makes a key and a certificate for a subject and writes both. -/
def mint (bits : Nat) (subject : Subject) (certificatePath keyPath : String) :
    Action Workshop (Halt MintError) MintedCertificate := do
  let material ← KeyMaterial.generate bits subject
  let (certificatePath, keyPath) ← Workshop.onDisk (material.write certificatePath keyPath)
  return {
    certificatePath
    keyPath
    notBefore := material.notBefore
    notAfter := material.notAfter }

end MailProvision
