import MailProvision.Proofs.Certificate.Armour
import MailProvision.Proofs.Certificate.Generating
import MailProvision.Proofs.Certificate.Keys
import MailProvision.Proofs.Certificate.Moments
import MailProvision.Proofs.Certificate.Names

/-!
# What a certificate says

A certificate whose parts can be read back is read back as a whole. So the certificate that is made
for a subject says what the subject asks for, and two subjects whose certificates have the same body
are the same subject.
-/

namespace MailProvision

namespace CertificateBody

/-- Every part of the body can be read back and is short. -/
structure Legible (body : CertificateBody) : Prop where
  version : body.version = 3
  serialNumber : body.serialNumber < 256 ^ 8
  algorithm : body.algorithm ∈ Algorithm.known
  issuer : DistinguishedName.ofDer? body.issuer.toDer = some body.issuer
  issuer_short : body.issuer.toDer.encode.length ≤ 2 ^ 73
  notBefore : CertificateTime.ofDer? body.notBefore.toDer = some body.notBefore
  notBefore_short : body.notBefore.toDer.encode.length ≤ 32
  notAfter : CertificateTime.ofDer? body.notAfter.toDer = some body.notAfter
  notAfter_short : body.notAfter.toDer.encode.length ≤ 32
  subject : DistinguishedName.ofDer? body.subject.toDer = some body.subject
  subject_short : body.subject.toDer.encode.length ≤ 2 ^ 73
  keyAlgorithm : body.keyAlgorithm ∈ Algorithm.known
  publicKey : body.publicKey.Sized
  extensions : body.extensions = []

variable {body : CertificateBody}

theorem toDer_of_legible (legible : body.Legible) :
    body.toDer = .constructed 0x30
      [.constructed 0xa0 [.integer 2], .integer body.serialNumber, body.algorithm.toDer,
        body.issuer.toDer, .constructed 0x30 [body.notBefore.toDer, body.notAfter.toDer],
        body.subject.toDer, body.publicKey.toDer body.keyAlgorithm] := by
  rw [toDer, legible.version, legible.extensions]
  rfl

theorem ofDer?_toDer (legible : body.Legible) : ofDer? body.toDer = some body := by
  rw [toDer_of_legible legible, ofDer?]
  simp only [PublicKey.ofDer?_toDer legible.keyAlgorithm legible.publicKey, Der.integer?_integer,
    Algorithm.ofDer?_toDer legible.algorithm, legible.issuer, legible.notBefore, legible.notAfter,
    legible.subject, extensionsOfDer?, bind, Option.bind]
  have version : 2 + 1 = body.version := legible.version.symm
  rw [version, ← legible.extensions]

theorem wellTagged_toDer (legible : body.Legible) : body.toDer.WellTagged := by
  rw [toDer_of_legible legible]
  exact ⟨rfl, ⟨rfl, rfl, trivial⟩, rfl, body.algorithm.wellTagged_toDer,
    body.issuer.wellTagged_toDer,
    ⟨rfl, body.notBefore.wellTagged_toDer, body.notAfter.wellTagged_toDer, trivial⟩,
    body.subject.wellTagged_toDer, body.publicKey.wellTagged_toDer body.keyAlgorithm, trivial⟩

theorem length_encode_toDer_le (legible : body.Legible) : body.toDer.encode.length ≤ 2 ^ 77 := by
  have version := PublicKey.length_encode_integer_le (by decide : 2 < 256 ^ 1)
  have serialNumber := PublicKey.length_encode_integer_le legible.serialNumber
  have algorithm := Algorithm.length_encode_toDer_le legible.algorithm
  have key := PublicKey.length_encode_toDer_le legible.keyAlgorithm legible.publicKey
  have issuer := legible.issuer_short
  have notBefore := legible.notBefore_short
  have notAfter := legible.notAfter_short
  have subject := legible.subject_short
  have marked := Der.length_encode_le (.constructed 0xa0 [.integer 2])
  have validity := Der.length_encode_le
    (.constructed 0x30 [body.notBefore.toDer, body.notAfter.toDer])
  have whole := Der.length_encode_le body.toDer
  rw [toDer_of_legible legible] at whole ⊢
  simp only [Der.content, Der.encodeAll, List.append_nil, List.length_append]
    at marked validity whole
  omega

/-- The bytes of a body tell the body. -/
theorem encode_toDer_inj {other : CertificateBody} (legible : body.Legible)
    (legible' : other.Legible) (same : body.toDer.encode = other.toDer.encode) : body = other := by
  have values : body.toDer = other.toDer :=
    Der.encode_inj (wellTagged_toDer legible) (wellTagged_toDer legible')
      (Der.readable_of_le (Nat.le_trans (length_encode_toDer_le legible) (by decide))) same
  have read := ofDer?_toDer legible
  rw [values, ofDer?_toDer legible'] at read
  exact (Option.some.inj read).symm

end CertificateBody

namespace Certificate

theorem toDer_eq (certificate : Certificate) : certificate.toDer = .constructed 0x30
    [certificate.body.toDer, certificate.algorithm.toDer, .bitString certificate.signature] :=
  rfl

/-- A certificate is read back from its text. -/
theorem ofPem?_toPem {certificate : Certificate} (legible : certificate.body.Legible)
    (algorithm : certificate.algorithm ∈ Algorithm.known)
    (short : certificate.signature.length ≤ 2 ^ 20) :
    ofPem? certificate.toPem = some certificate := by
  have tagged : certificate.toDer.WellTagged :=
    ⟨rfl, CertificateBody.wellTagged_toDer legible, certificate.algorithm.wellTagged_toDer, rfl,
      trivial⟩
  have readable : Der.Readable certificate.toDer.encode.length := by
    have body := CertificateBody.length_encode_toDer_le legible
    have middle := Algorithm.length_encode_toDer_le algorithm
    have signature := Der.length_encode_le (.bitString certificate.signature)
    have whole := Der.length_encode_le certificate.toDer
    rw [toDer_eq] at whole ⊢
    simp only [Der.content, Der.bitString, Der.encodeAll, List.append_nil, List.length_append,
      List.length_cons] at signature whole ⊢
    apply Der.readable_of_le
    omega
  have read : ofDer? certificate.toDer = some certificate := by
    rw [toDer_eq, ofDer?]
    simp only [CertificateBody.ofDer?_toDer legible, Algorithm.ofDer?_toDer algorithm,
      Der.bitString, Der.bitString?, bind, Option.bind]
  simp only [ofPem?, toPem, Pem.decode?_encode, Der.decode?_encode tagged readable, read, bind,
    Option.bind]

/-- What a certificate says that was made for a subject in a given second. -/
structure Tells (certificate : Certificate) (subject : Subject) (seconds : Int) : Prop where
  version : certificate.body.version = 3
  serialNumber : certificate.body.serialNumber = subject.serialNumber.toNat
  notBefore : certificate.body.notBefore.seconds = seconds + subject.validityStart.toInt
  notAfter : certificate.body.notAfter.seconds = seconds + subject.validityEnd.toInt
  lasts : certificate.body.notAfter.seconds - certificate.body.notBefore.seconds =
    subject.validityEnd.toInt - subject.validityStart.toInt
  ends : 0 < subject.validityEnd.toInt - subject.validityStart.toInt
  form : ∀ time ∈ [certificate.body.notBefore, certificate.body.notAfter],
    time.form = .utc ↔
      1950 ≤ (CalendarTime.ofSeconds time.seconds).year ∧
        (CalendarTime.ofSeconds time.seconds).year ≤ 2049
  issuer : certificate.body.issuer = certificate.body.subject
  /-- One step for each attribute that is not empty. -/
  subject : certificate.body.subject = subject.listed.map ([·])
  extensions : certificate.body.extensions = []
  bodyAlgorithm : certificate.body.algorithm = .rsaWithSha512
  algorithm : certificate.algorithm = .rsaWithSha512

/-- The body of a certificate tells the subject, given the second in which it was made. -/
theorem Tells.subject_eq {certificate certificate' : Certificate} {subject other : Subject}
    {seconds : Int} (tells : certificate.Tells subject seconds)
    (tells' : certificate'.Tells other seconds) (same : certificate.body = certificate'.body) :
    subject = other := by
  have serialNumber : subject.serialNumber = other.serialNumber := by
    apply UInt64.toNat_inj.mp
    rw [← tells.serialNumber, ← tells'.serialNumber, same]
  have starts : subject.validityStart = other.validityStart := by
    apply Int64.toInt_inj.mp
    have first := tells.notBefore
    rw [same, tells'.notBefore] at first
    omega
  have finishes : subject.validityEnd = other.validityEnd := by
    apply Int64.toInt_inj.mp
    have last := tells.notAfter
    rw [same, tells'.notAfter] at last
    omega
  have listed : subject.listed = other.listed := by
    have steps := tells.subject
    rw [same, tells'.subject] at steps
    exact (List.map_injective_iff.mpr (fun _ _ equal => List.singleton_inj.mp equal) steps).symm
  have attributes := Subject.attributes_eq_of_listed_eq listed
  simp only [Subject.attributes, List.cons.injEq, Attribute.mk.injEq, true_and, and_true]
    at attributes
  rcases attributes with
    ⟨country, state, locality, organization, organizationUnit, commonName, email⟩
  cases subject
  cases other
  rw [Subject.mk.injEq]
  exact ⟨country, state, locality, organization, organizationUnit, commonName, email, serialNumber,
    starts, finishes⟩

end Certificate

namespace KeyMaterial

/-- Four digits can tell the years in which the certificate starts and ceases to hold. -/
def Dated (material : KeyMaterial) : Prop :=
  ∀ seconds ∈ [material.notBefore, material.notAfter],
    0 ≤ (CalendarTime.ofSeconds seconds).year ∧ (CalendarTime.ofSeconds seconds).year ≤ 9999

section Planned

variable {bits : Nat} {subject : Subject} {seconds notBefore notAfter : Int}
  {name : DistinguishedName}

theorem Planned.validity_pos (planned : Planned bits subject seconds notBefore notAfter name) :
    0 < subject.validityEnd.toInt - subject.validityStart.toInt := by
  have checked := planned.checked
  unfold Subject.check at checked
  by_cases empty : subject.validityEnd ≤ subject.validityStart
  · rw [if_pos empty] at checked
    cases checked
  · rw [Int64.le_iff_toInt_le] at empty
    omega

theorem Planned.bits_bounds (planned : Planned bits subject seconds notBefore notAfter name) :
    2048 ≤ bits ∧ bits ≤ 8192 := by
  have sized := planned.sized
  unfold checkKeyBits at sized
  by_cases within : leastKeyBits ≤ bits ∧ bits ≤ greatestKeyBits
  · exact within
  · rw [if_neg within] at sized
    cases sized

/-- The certificate of a pair that can be made, by its parts. -/
theorem Planned.legible (planned : Planned bits subject seconds notBefore notAfter name)
    (addressable : subject.Addressable) {key : PrivateKey} (sized : key.publicKey.Sized)
    (dated : (ofKey key subject notBefore notAfter name).Dated) :
    (Certificate.selfSigned key name subject.serialNumber.toNat notBefore
      notAfter).body.Legible := by
  obtain rfl := DistinguishedName.eq_of_ofSubject planned.named
  have first := dated notBefore (.head _)
  have last := dated notAfter (.tail _ (.head _))
  have known : ∀ item ∈ subject.listed, item.type ∈ AttributeType.known := fun _ =>
    Subject.known_of_mem_listed
  have short : ∀ item ∈ subject.listed, item.text.utf8ByteSize < 2 ^ 64 := fun item member =>
    addressable item (List.mem_filter.mp member).1
  have steps : ∀ step ∈ subject.listed.map ([·]), ∀ item ∈ step,
      item.type ∈ AttributeType.known := by
    intro step member item inside
    rcases List.mem_map.mp member with ⟨only, listed, rfl⟩
    rw [List.mem_singleton.mp inside]
    exact known only listed
  have read := DistinguishedName.ofDer?_toDer steps
  have length := DistinguishedName.length_encode_toDer_le subject.length_listed_le known short
  exact {
    version := rfl
    serialNumber := subject.serialNumber.toNat_lt
    algorithm := .tail _ (.head _)
    issuer := read
    issuer_short := length
    notBefore := CertificateTime.ofDer?_toDer first.1 first.2
    notBefore_short := CertificateTime.length_encode_toDer_le first.2 _
    notAfter := CertificateTime.ofDer?_toDer last.1 last.2
    notAfter_short := CertificateTime.length_encode_toDer_le last.2 _
    subject := read
    subject_short := length
    keyAlgorithm := .head _
    publicKey := sized
    extensions := rfl }

theorem Planned.tells (planned : Planned bits subject seconds notBefore notAfter name)
    (key : PrivateKey) :
    (Certificate.selfSigned key name subject.serialNumber.toNat notBefore notAfter).Tells subject
      seconds := by
  obtain rfl := DistinguishedName.eq_of_ofSubject planned.named
  obtain ⟨rfl, _⟩ := offsetFrom_ok_iff.1 planned.starts
  obtain ⟨rfl, _⟩ := offsetFrom_ok_iff.1 planned.ends
  exact {
    version := rfl
    serialNumber := rfl
    notBefore := rfl
    notAfter := rfl
    lasts := by
      change seconds + _ - (seconds + _) = _
      omega
    ends := planned.validity_pos
    form := by
      intro time member
      simp only [List.mem_cons, List.not_mem_nil, or_false] at member
      rcases member with rfl | rfl
      · exact CertificateTime.form_ofSeconds _
      · exact CertificateTime.form_ofSeconds _
    issuer := rfl
    subject := rfl
    extensions := rfl
    bodyAlgorithm := rfl
    algorithm := rfl }

end Planned

section Generated

variable {bits : Nat} {subject : Subject} {workshop : Workshop} {material : KeyMaterial}

/-- The certificate that is made is read back and says what the subject asks for. -/
theorem exists_certificate (generated : (generate bits subject workshop).result = .ok material)
    (addressable : subject.Addressable) (dated : material.Dated) :
    ∃ certificate, material.certificatePem = certificate.toPem ∧
      Certificate.ofPem? material.certificatePem = some certificate ∧
      certificate.body.Legible ∧ certificate.Tells subject workshop.seconds := by
  rcases generate_ok_iff.1 generated with ⟨notBefore, notAfter, name, planned, rfl⟩
  have sized : (workshop.keys.nextKey bits).publicKey.Sized :=
    workshop.keys.sized_draw planned.bits_bounds.1 planned.bits_bounds.2
  have legible := planned.legible addressable sized dated
  have signature (message : List UInt8) :
      ((workshop.keys.nextKey bits).sign message).length ≤ 2 ^ 20 := by
    rw [PrivateKey.length_sign sized.positive]
    exact Nat.le_trans sized.width (by decide)
  exact ⟨_, rfl, Certificate.ofPem?_toPem legible (.tail _ (.head _)) (signature _), legible,
    planned.tells _⟩

/-- A certificate that was made carries its subject: reading its text gives back the version, the
serial number, the validity to the second and in the right form, and the texts of the subject that
are not empty, in order. Another subject, with a certificate that was made in the same second, has
another body. -/
theorem certificate_carries_subject
    (generated : (generate bits subject workshop).result = .ok material)
    (addressable : subject.Addressable) (dated : material.Dated) :
    ∃ certificate, material.certificatePem = certificate.toPem ∧
      Certificate.ofPem? material.certificatePem = some certificate ∧
      certificate.Tells subject workshop.seconds ∧
      ∀ bits' other workshop' material' certificate',
        (generate bits' other workshop').result = .ok material' → other.Addressable →
        material'.Dated → workshop'.seconds = workshop.seconds →
        Certificate.ofPem? material'.certificatePem = some certificate' →
        certificate.body.toDer.encode = certificate'.body.toDer.encode → subject = other := by
  rcases exists_certificate generated addressable dated with
    ⟨certificate, written, read, legible, tells⟩
  refine ⟨certificate, written, read, tells, ?_⟩
  intro bits' other workshop' material' certificate' generated' addressable' dated' sameSecond read'
    sameBytes
  -- what was read from the other text is the certificate that was made there
  rcases exists_certificate generated' addressable' dated' with ⟨_, _, readAgain, legible', tells'⟩
  obtain rfl := Option.some.inj (readAgain.symm.trans read')
  rw [sameSecond] at tells'
  exact tells.subject_eq tells' (CertificateBody.encode_toDer_inj legible legible' sameBytes)

end Generated

/-- A subject with two attributes, one of them beyond ASCII, and the greatest serial number, whose
certificate holds until 2065. -/
def umlautSubject : Subject where
  country := ""
  state := ""
  locality := ""
  organization := "Größe"
  organizationUnit := ""
  commonName := "mail.example"
  email := ""
  serialNumber := 18446744073709551615
  validityEnd := 3000000000

def emptyWorkshop : Workshop where
  disk := { tree := ⟨[]⟩, workingDirectory := [] }
  clock := 1500000000
  keys := { seed := [1] }

theorem writable_umlaut : CertificateTime.Writable 1 3000000001 := by
  constructor <;> decide

theorem certificate_carries_subject_umlaut :
    ∃ material certificate,
      (generate 2048 umlautSubject emptyWorkshop).result = .ok material ∧
      Certificate.ofPem? material.certificatePem = some certificate ∧
      certificate.body.serialNumber = 18446744073709551615 ∧
      certificate.body.notBefore.seconds = 1 ∧ certificate.body.notBefore.form = .utc ∧
      certificate.body.notAfter.seconds = 3000000001 ∧
      certificate.body.notAfter.form ≠ .utc ∧
      certificate.body.subject =
        [[⟨.organization, .utf8, "Größe"⟩], [⟨.commonName, .utf8, "mail.example"⟩]] := by
  have planned : Planned 2048 umlautSubject 1 1 3000000001 _ :=
    ⟨⟨rfl, rfl, rfl, rfl, rfl, rfl⟩, writable_umlaut⟩
  have generated : (generate 2048 umlautSubject emptyWorkshop).result = .ok _ :=
    generate_ok_iff.2 ⟨_, _, _, planned, rfl⟩
  have addressable : umlautSubject.Addressable := by
    unfold Subject.Addressable
    decide
  have dated (name : DistinguishedName) :
      (ofKey (emptyWorkshop.keys.nextKey 2048) umlautSubject 1 3000000001 name).Dated := by
    have years : ∀ seconds ∈ [(1 : Int), 3000000001], 0 ≤ (CalendarTime.ofSeconds seconds).year ∧
        (CalendarTime.ofSeconds seconds).year ≤ 9999 := by
      decide
    exact years
  rcases certificate_carries_subject generated addressable (dated _) with
    ⟨certificate, _, read, tells, _⟩
  have forms := tells.form
  have starts := tells.notBefore
  have ends := tells.notAfter
  refine ⟨_, certificate, generated, read, tells.serialNumber, starts, ?_, ends, ?_, tells.subject⟩
  · apply (forms _ (.head _)).2
    rw [starts]
    decide
  · intro short
    have years := (forms _ (.tail _ (.head _))).1 short
    rw [ends] at years
    revert years
    decide

end KeyMaterial

end MailProvision
