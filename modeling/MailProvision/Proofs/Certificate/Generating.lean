import MailProvision.Certificate.Minting
import MailProvision.Proofs.Action

/-!
# What a pair is made from

Whether a pair is made is decided by the subject, the size of the key and the moment of minting
(`KeyMaterial.Planned`); the key that is drawn decides nothing but what stands in the two files.
Making a pair leaves the disk alone; it is refused for other causes than a file, or it panics.
-/

namespace MailProvision

namespace KeySource

def nextKey (keys : KeySource) (bits : Nat) : PrivateKey :=
  (keys.draw bits).1

/-- A pair for a subject: the key that is made next, and a certificate for that key. -/
structure Makes (keys : KeySource) (bits : Nat) (subject : Subject)
    (material : KeyMaterial) : Prop where
  key : material.privateKeyPem = (keys.nextKey bits).toPem
  certificate : ∃ name, DistinguishedName.ofSubject subject = .ok name ∧
    material.certificatePem =
      (Certificate.selfSigned (keys.nextKey bits) name subject.serialNumber.toNat
        material.notBefore material.notAfter).toPem

end KeySource

namespace MintError

def isPersistence : MintError → Bool
  | persistence .. => true
  | _ => false

end MintError

namespace Halt

def isPersistence : Halt MintError → Bool
  | failure told => told.isPersistence
  | panic => false

end Halt

/-- A moment is moved by exactly the offset. -/
theorem offsetFrom_ok_iff {seconds moved : Int} {offset : Int64} :
    offsetFrom seconds offset = .ok moved ↔
      moved = seconds + offset.toInt ∧ CalendarTime.isRepresentable moved = true := by
  unfold offsetFrom
  by_cases representable : CalendarTime.isRepresentable (seconds + offset.toInt) = true
  · rw [if_pos representable, Except.ok.injEq]
    constructor
    · rintro rfl
      exact ⟨rfl, representable⟩
    · rintro ⟨rfl, _⟩
      rfl
  · rw [if_neg representable]
    constructor
    · rintro ⟨⟩
    · rintro ⟨rfl, possible⟩
      exact absurd possible representable

/-- A certificate that begins and ends at these moments can be written down. -/
def CertificateTime.Writable (notBefore notAfter : Int) : Prop :=
  isWritable notBefore = true ∧ isWritable notAfter = true

theorem signCertificate_of_writable {notBefore notAfter : Int}
    (writable : CertificateTime.Writable notBefore notAfter) (key : PrivateKey)
    (name : DistinguishedName) (serialNumber : Nat) :
    signCertificate key name serialNumber notBefore notAfter =
      Action.done (.selfSigned key name serialNumber notBefore notAfter) := by
  rw [signCertificate, writable.1, writable.2]
  rfl

theorem signCertificate_of_unwritable {notBefore notAfter : Int}
    (unwritable : ¬CertificateTime.Writable notBefore notAfter) (key : PrivateKey)
    (name : DistinguishedName) (serialNumber : Nat) :
    signCertificate key name serialNumber notBefore notAfter = Action.fail .panic := by
  rw [CertificateTime.Writable, ← Bool.and_eq_true] at unwritable
  rw [signCertificate, if_neg unwritable]

theorem signCertificate_ok_iff {key : PrivateKey} {name : DistinguishedName} {serialNumber : Nat}
    {notBefore notAfter : Int} {workshop : Workshop} {certificate : Certificate} :
    (signCertificate key name serialNumber notBefore notAfter workshop).result = .ok certificate ↔
      CertificateTime.Writable notBefore notAfter ∧
        certificate = .selfSigned key name serialNumber notBefore notAfter := by
  by_cases writable : CertificateTime.Writable notBefore notAfter
  · rw [signCertificate_of_writable writable]
    simp only [Action.done, Except.ok.injEq, writable, true_and, eq_comm]
  · rw [signCertificate_of_unwritable writable]
    constructor
    · rintro ⟨⟩
    · rintro ⟨possible, _⟩
      exact absurd possible writable

theorem signCertificate_error_iff {key : PrivateKey} {name : DistinguishedName}
    {serialNumber : Nat} {notBefore notAfter : Int} {workshop : Workshop} {halt : Halt MintError} :
    (signCertificate key name serialNumber notBefore notAfter workshop).result = .error halt ↔
      ¬CertificateTime.Writable notBefore notAfter ∧ halt = .panic := by
  by_cases writable : CertificateTime.Writable notBefore notAfter
  · rw [signCertificate_of_writable writable]
    simp [Action.done, writable]
  · rw [signCertificate_of_unwritable writable]
    simp [Action.fail, writable, eq_comm]

theorem failsOnly_signCertificate {kind : Halt MintError → Prop} (panics : kind .panic)
    (key : PrivateKey) (name : DistinguishedName) (serialNumber : Nat) (notBefore notAfter : Int) :
    (signCertificate key name serialNumber notBefore notAfter).FailsOnly kind := by
  intro workshop halt unsigned
  rcases signCertificate_error_iff.1 unsigned with ⟨_, rfl⟩
  exact panics

theorem signCertificate_state (key : PrivateKey) (name : DistinguishedName) (serialNumber : Nat)
    (notBefore notAfter : Int) (workshop : Workshop) :
    (signCertificate key name serialNumber notBefore notAfter workshop).state = workshop := by
  by_cases writable : CertificateTime.Writable notBefore notAfter
  · rw [signCertificate_of_writable writable]
    rfl
  · rw [signCertificate_of_unwritable writable]
    rfl

namespace KeyMaterial

/-- Nothing is refused: a pair is to hold between these moments, for this name. -/
structure Drafted (bits : Nat) (subject : Subject) (seconds notBefore notAfter : Int)
    (name : DistinguishedName) : Prop where
  checked : subject.check = .ok ()
  sized : checkKeyBits bits = .ok ()
  starts : offsetFrom seconds subject.validityStart = .ok notBefore
  ends : offsetFrom seconds subject.validityEnd = .ok notAfter
  signs : checkCanSign bits = .ok ()
  named : DistinguishedName.ofSubject subject = .ok name

/-- A pair can be made: between these moments, for this name. -/
structure Planned (bits : Nat) (subject : Subject) (seconds notBefore notAfter : Int)
    (name : DistinguishedName) : Prop
    extends Drafted bits subject seconds notBefore notAfter name where
  writable : CertificateTime.Writable notBefore notAfter

/-- The pair that is made with a key. -/
def ofKey (key : PrivateKey) (subject : Subject) (notBefore notAfter : Int)
    (name : DistinguishedName) : KeyMaterial where
  certificatePem :=
    (Certificate.selfSigned key name subject.serialNumber.toNat notBefore notAfter).toPem
  privateKeyPem := key.toPem
  notBefore := notBefore
  notAfter := notAfter

theorem Planned.makes {bits : Nat} {subject : Subject} {seconds notBefore notAfter : Int}
    {name : DistinguishedName} (planned : Planned bits subject seconds notBefore notAfter name)
    (keys : KeySource) :
    keys.Makes bits subject (ofKey (keys.nextKey bits) subject notBefore notAfter name) where
  key := rfl
  certificate := ⟨name, planned.named, rfl⟩

theorem generate_ok_iff {bits : Nat} {subject : Subject} {workshop : Workshop}
    {material : KeyMaterial} :
    (generate bits subject workshop).result = .ok material ↔
      ∃ notBefore notAfter name,
        Planned bits subject workshop.seconds notBefore notAfter name ∧
          material = ofKey (workshop.keys.nextKey bits) subject notBefore notAfter name := by
  constructor
  · intro generated
    simp only [generate, Action.bind_ok_iff] at generated
    rcases generated with ⟨_, checked, _, sized, _, read, notBefore, starts, notAfter, ends, _,
      reported, _, signs, key, drawn, name, named, certificate, signed, _, told, made⟩
    cases read
    cases drawn
    rcases signCertificate_ok_iff.1 signed with ⟨writable, rfl⟩
    cases made
    exact ⟨notBefore, notAfter, name,
      { checked := (mapError_eq_ok_iff _).1 checked
        sized := (mapError_eq_ok_iff _).1 sized
        starts := (mapError_eq_ok_iff _).1 starts
        ends := (mapError_eq_ok_iff _).1 ends
        signs := (mapError_eq_ok_iff _).1 signs
        named := (mapError_eq_ok_iff _).1 named
        writable }, rfl⟩
  · rintro ⟨notBefore, notAfter, name, planned, rfl⟩
    simp only [generate, Action.bind_ok_iff]
    exact ⟨(), (mapError_eq_ok_iff _).2 planned.checked, (),
      (mapError_eq_ok_iff _).2 planned.sized, _, rfl, notBefore,
      (mapError_eq_ok_iff _).2 planned.starts, notAfter, (mapError_eq_ok_iff _).2 planned.ends,
      (), rfl, (), (mapError_eq_ok_iff _).2 planned.signs, _, rfl, name,
      (mapError_eq_ok_iff _).2 planned.named, _,
      signCertificate_ok_iff.2 ⟨planned.writable, rfl⟩, (), rfl, rfl⟩

/-- Making a pair panics if and only if nothing is refused and a moment cannot be written. -/
theorem generate_panic_iff {bits : Nat} {subject : Subject} {workshop : Workshop} :
    (generate bits subject workshop).result = .error .panic ↔
      ∃ notBefore notAfter name,
        Drafted bits subject workshop.seconds notBefore notAfter name ∧
          ¬CertificateTime.Writable notBefore notAfter := by
  simp only [generate, Action.bind_error_iff, refuseSubject, refuseKey, nameSubject,
    Action.ofExcept, mapError_eq_error_iff, mapError_eq_ok_iff, Action.gets, Action.report,
    Action.note, Workshop.drawKey, signCertificate_error_iff, pure, Action.done, Except.ok.injEq,
    reduceCtorEq, and_true, and_false, exists_false, false_or, or_false, exists_eq_left']
  constructor
  · rintro ⟨_, checked, _, sized, notBefore, starts, notAfter, ends, _, _, _, signs,
      name, named, unwritable⟩
    exact ⟨notBefore, notAfter, name, { checked, sized, starts, ends, signs, named }, unwritable⟩
  · rintro ⟨notBefore, notAfter, name, drafted, unwritable⟩
    exact ⟨(), drafted.checked, (), drafted.sized, notBefore, drafted.starts, notAfter,
      drafted.ends, (), trivial, (), drafted.signs, name, drafted.named, unwritable⟩

/-- Making a pair changes nothing but the source of keys. -/
theorem keeps_generate {Part : Type} {read : Workshop → Part}
    (apart : ∀ workshop keys, read { workshop with keys } = read workshop) (bits : Nat)
    (subject : Subject) : (generate bits subject).Keeps read := by
  have still {Value : Type} {action : Action Workshop (Halt MintError) Value}
      (same : ∀ workshop, (action workshop).state = workshop) : action.Keeps read :=
    .of_still same
  unfold generate
  apply (still fun _ => rfl).bind
  intro _
  apply (still fun _ => rfl).bind
  intro _
  apply (still fun _ => rfl).bind
  intro seconds
  apply (still fun _ => rfl).bind
  intro notBefore
  apply (still fun _ => rfl).bind
  intro notAfter
  apply (still fun _ => rfl).bind
  intro _
  apply (still fun _ => rfl).bind
  intro _
  have draws : (Workshop.drawKey bits).Keeps read := fun workshop => apart workshop _
  apply draws.bind
  intro key
  apply (still fun _ => rfl).bind
  intro name
  apply (still fun _ => signCertificate_state ..).bind
  intro certificate
  apply (still fun _ => rfl).bind
  intro _
  exact still fun _ => rfl

theorem disk_generate (bits : Nat) (subject : Subject) (workshop : Workshop) :
    (generate bits subject workshop).state.disk = workshop.disk := by
  have keeps : (generate bits subject).Keeps Workshop.disk :=
    keeps_generate (fun _ _ => rfl) bits subject
  exact keeps workshop

/-- What ends the making of a pair is never a file. -/
theorem noFile_generate (bits : Nat) (subject : Subject) :
    (generate bits subject).FailsOnly fun halt => halt.isPersistence = false := by
  unfold generate
  refine .bind (.ofExcept fun _ => rfl) ?_
  intro _
  refine .bind (.ofExcept fun _ => rfl) ?_
  intro _
  refine .bind (.of_ok fun _ => rfl) ?_
  intro seconds
  refine .bind (.ofExcept fun _ => rfl) ?_
  intro notBefore
  refine .bind (.ofExcept fun _ => rfl) ?_
  intro notAfter
  refine .bind (.of_ok fun _ => rfl) ?_
  intro _
  refine .bind (.ofExcept fun _ => rfl) ?_
  intro _
  refine .bind (.of_ok fun _ => rfl) ?_
  intro key
  refine .bind (.ofExcept fun _ => rfl) ?_
  intro name
  refine .bind (failsOnly_signCertificate (by rfl) key name _ _ _) ?_
  intro certificate
  refine .bind (.of_ok fun _ => rfl) ?_
  intro _
  exact .of_ok fun _ => rfl

end KeyMaterial

end MailProvision
