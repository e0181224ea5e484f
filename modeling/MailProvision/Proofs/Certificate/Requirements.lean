import MailProvision.Proofs.Certificate.Calendar
import MailProvision.Proofs.Certificate.Generating
import MailProvision.Proofs.Checks
import MailProvision.Proofs.Text.Trimming

/-!
# What is asked before a key is made

Seven conditions on the subject, the size of the key and the moment of minting decide whether a key
is made (`KeyRequest.Meets`). They are said here of characters, numbers and years of the calendar,
and the first that is not met is the one reported. After them only the size of the key can still be
refused: a subject that is accepted has a name.
-/

namespace MailProvision

/-- A request for a key and its certificate at a moment, in nanoseconds from the start of 1970. -/
structure KeyRequest where
  bits : Nat
  subject : Subject
  clock : Int
deriving DecidableEq, Repr

/-- What is asked of a request before a key is made, in the order in which it is checked. -/
inductive Requirement where
  | validity
  | commonName
  | country
  | email
  | keySize
  | start
  | finish
deriving DecidableEq, Repr

/-- All that is asked of a request, in order. -/
def Requirement.inOrder : List Requirement :=
  [validity, commonName, country, email, keySize, start, finish]

theorem Requirement.mem_inOrder (requirement : Requirement) : requirement ∈ inOrder := by
  cases requirement <;> decide

namespace KeyRequest

variable (request : KeyRequest)

/-- The year at an offset from the moment of minting. -/
def yearAt (offset : Int64) : Int :=
  (CalendarTime.ofSeconds ((request.clock + offset.toInt * 1000000000) / 1000000000)).year

/-- Whether a request is as it should be in one respect. -/
def Meets : Requirement → Prop
  | .validity => request.subject.validityStart.toInt < request.subject.validityEnd.toInt
  | .commonName => ∃ c ∈ request.subject.commonName.toList, Text.isBlank c = false
  | .country =>
      request.subject.country = "" ∨ request.subject.country.length = 2 ∧
        ∀ c ∈ request.subject.country.toList, Subject.isAsciiLetter c = true
  | .email => ∀ c ∈ request.subject.email.toList, c.toNat < 128
  | .keySize => 2048 ≤ request.bits ∧ request.bits ≤ 8192
  | .start =>
      -9999 ≤ request.yearAt request.subject.validityStart ∧
        request.yearAt request.subject.validityStart ≤ 9999
  | .finish =>
      -9999 ≤ request.yearAt request.subject.validityEnd ∧
        request.yearAt request.subject.validityEnd ≤ 9999

-- A character is looked for in the text; Mathlib would try all characters there are.
instance : DecidablePred request.Meets
  | .validity => inferInstanceAs (Decidable (_ < _))
  | .commonName => List.decidableBEx _ _
  | .country =>
      have := List.decidableBAll (Subject.isAsciiLetter · = true)
        request.subject.country.toList
      inferInstanceAs (Decidable (_ ∨ _ ∧ _))
  | .email => List.decidableBAll _ _
  | .keySize => inferInstanceAs (Decidable (_ ∧ _))
  | .start => inferInstanceAs (Decidable (_ ∧ _))
  | .finish => inferInstanceAs (Decidable (_ ∧ _))

/-- How a request that is not as it should be is refused. -/
def refusal : Requirement → MintError
  | .validity =>
      .invalidSubject <| .refused <|
        .emptyValidity request.subject.validityStart request.subject.validityEnd
  | .commonName => .invalidSubject (.refused .blankCommonName)
  | .country => .invalidSubject (.refused (.countryNotCode request.subject.country))
  | .email => .invalidSubject (.refused (.emailNotAscii request.subject.email))
  | .keySize => .keyGeneration (.sizeOutside request.bits leastKeyBits greatestKeyBits)
  | .start => .invalidSubject (.refused (.offsetOutOfRange request.subject.validityStart))
  | .finish => .invalidSubject (.refused (.offsetOutOfRange request.subject.validityEnd))

/-! ## How the conditions are checked -/

/-- A refusal of the subject, as a refusal of the request. -/
def refuse {Value : Type} (result : Except SubjectFault Value) : Except MintError Value :=
  result.mapError fun fault => .invalidSubject (.refused fault)

theorem refuse_check :
    refuse request.subject.check =
      checkAll request.Meets request.refusal [.validity, .commonName, .country, .email] := by
  have validity : request.subject.validityEnd ≤ request.subject.validityStart ↔
      ¬request.Meets .validity := by
    rw [Int64.le_iff_toInt_le, Meets, not_lt]
  have commonName : (Text.trimChars request.subject.commonName.toList).isEmpty = true ↔
      ¬request.Meets .commonName := by
    rw [Meets, ← Text.trimChars_ne_nil_iff, not_not, List.isEmpty_iff]
  have code : Subject.isCountryCode request.subject.country = true ↔
      request.subject.country.length = 2 ∧
        ∀ c ∈ request.subject.country.toList, Subject.isAsciiLetter c = true := by
    simp [Subject.isCountryCode]
  have country : (!request.subject.country.isEmpty &&
      !Subject.isCountryCode request.subject.country) = true ↔ ¬request.Meets .country := by
    rw [Meets, ← code, not_or]
    simp
  have email : (!Subject.isAscii request.subject.email) = true ↔ ¬request.Meets .email := by
    simp [Meets, Subject.isAscii]
  rw [Subject.check, if_congr validity rfl rfl, if_congr commonName rfl rfl,
    if_congr country rfl rfl, if_congr email rfl rfl]
  simp only [ite_not, refuse, apply_ite (Except.mapError _), checkAll]
  rfl

theorem refuse_keySize :
    (checkKeyBits request.bits).mapError .keyGeneration =
      checkAll request.Meets request.refusal [.keySize] := by
  rw [checkKeyBits, apply_ite (Except.mapError _)]
  rfl

/-- Moving the second of a moment by whole seconds gives the second of the moved moment. -/
theorem isRepresentable_iff {offset : Int64} :
    CalendarTime.isRepresentable (request.clock / 1000000000 + offset.toInt) = true ↔
      -9999 ≤ request.yearAt offset ∧ request.yearAt offset ≤ 9999 := by
  have moved : (request.clock + offset.toInt * 1000000000) / 1000000000 =
      request.clock / 1000000000 + offset.toInt :=
    Int.add_mul_ediv_right _ _ (by decide)
  rw [CalendarTime.isRepresentable_iff, yearAt, moved]

theorem refuse_offset (offset : Int64) :
    (refuse (offsetFrom (request.clock / 1000000000) offset)).map (fun _ => ()) =
      if -9999 ≤ request.yearAt offset ∧ request.yearAt offset ≤ 9999 then .ok ()
      else .error (.invalidSubject (.refused (.offsetOutOfRange offset))) := by
  rw [offsetFrom, if_congr request.isRepresentable_iff rfl rfl, refuse,
    apply_ite (Except.mapError _), apply_ite (Except.map _)]
  rfl

/-- The moments between which the certificate is to hold, unless the request is refused before a key
is made. -/
def period : Except MintError (Int × Int) := do
  refuse request.subject.check
  (checkKeyBits request.bits).mapError .keyGeneration
  let notBefore ← refuse (offsetFrom (request.clock / 1000000000) request.subject.validityStart)
  let notAfter ← refuse (offsetFrom (request.clock / 1000000000) request.subject.validityEnd)
  return (notBefore, notAfter)

/-- The conditions are checked in their order. -/
theorem period_eq :
    request.period.map (fun _ => ()) =
      checkAll request.Meets request.refusal Requirement.inOrder := by
  have parts : Requirement.inOrder =
      [.validity, .commonName, .country, .email] ++ ([.keySize] ++ ([.start] ++ [.finish])) :=
    rfl
  have start : checkAll request.Meets request.refusal [.start] = _ :=
    (request.refuse_offset request.subject.validityStart).symm
  have finish : checkAll request.Meets request.refusal [.finish] = _ :=
    (request.refuse_offset request.subject.validityEnd).symm
  rw [parts, checkAll_append, checkAll_append, checkAll_append, ← refuse_check, ← refuse_keySize,
    start, finish, period]
  cases refuse request.subject.check with
  | error error => rfl
  | ok _ =>
  cases (checkKeyBits request.bits).mapError MintError.keyGeneration with
  | error error => rfl
  | ok _ =>
  cases refuse (offsetFrom (request.clock / 1000000000) request.subject.validityStart) with
  | error error => rfl
  | ok notBefore =>
  cases refuse (offsetFrom (request.clock / 1000000000) request.subject.validityEnd) with
  | error error => rfl
  | ok notAfter => rfl

end KeyRequest

namespace KeyMaterial

/-- Makes a key and a certificate that holds between two moments. -/
def make (bits : Nat) (subject : Subject) (notBefore notAfter : Int) :
    Action Workshop (Halt MintError) KeyMaterial := do
  Action.report (.generatingKey bits)
  refuseKey (checkCanSign bits)
  let key ← Workshop.drawKey bits
  let name ← nameSubject subject
  let certificate ← signCertificate key name subject.serialNumber.toNat notBefore notAfter
  Action.report
    (.signed subject.commonName (CalendarTime.describe notBefore)
      (CalendarTime.describe notAfter))
  return {
    certificatePem := certificate.toPem
    privateKeyPem := key.toPem
    notBefore
    notAfter }

section Make

variable (bits : Nat) (subject : Subject) (notBefore notAfter : Int) (workshop : Workshop)

theorem head?_make : (make bits subject notBefore notAfter workshop).trace.head? =
    some (.event (.generatingKey bits)) := by
  rw [make, Action.bind_of_ok (Action.report_run _ workshop)]
  rfl

/-- Where the subject has a name, nothing about it is refused any more. -/
theorem make_ne_invalidSubject {name : DistinguishedName}
    (named : DistinguishedName.ofSubject subject = .ok name) (fault : NameFault) :
    (make bits subject notBefore notAfter workshop).result ≠
      .error (.failure (.invalidSubject fault)) := by
  have other : (make bits subject notBefore notAfter).FailsOnly
      fun halt => halt ≠ .failure (.invalidSubject fault) := by
    rw [make, nameSubject, named]
    refine .bind (.of_ok fun _ => rfl) ?_
    intro _
    refine .bind (.ofExcept fun _ => by simp) ?_
    intro _
    refine .bind (.of_ok fun _ => rfl) ?_
    intro key
    refine .bind (.of_ok fun _ => rfl) ?_
    intro name
    refine .bind (failsOnly_signCertificate (by simp) key name _ _ _) ?_
    intro certificate
    refine .bind (.of_ok fun _ => rfl) ?_
    intro _
    exact .of_ok fun _ => rfl
  exact fun refused => other workshop _ refused rfl

end Make

end KeyMaterial

namespace Workshop

variable (workshop : Workshop) (bits : Nat) (subject : Subject)

/-- The request for a key and a certificate at the time of a workshop. -/
def request : KeyRequest where
  bits := bits
  subject := subject
  clock := workshop.clock

/-- A pair is made once the conditions are checked. -/
theorem generate_eq :
    KeyMaterial.generate bits subject workshop =
      match (workshop.request bits subject).period with
      | .error error => { result := .error (.failure error), state := workshop, trace := [] }
      | .ok (notBefore, notAfter) =>
          KeyMaterial.make bits subject notBefore notAfter workshop := by
  simp only [KeyMaterial.generate, KeyRequest.period, refuseSubject, KeyRequest.refuse, refuseKey,
    request]
  cases subject.check with
  | error fault => rfl
  | ok _ =>
  cases checkKeyBits bits with
  | error fault => rfl
  | ok _ =>
  cases starts : offsetFrom (workshop.clock / 1000000000) subject.validityStart with
  | error fault =>
      simp only [bind, Action.andThen, Action.ofExcept, mapError_ok, Action.gets, seconds, starts]
      rfl
  | ok notBefore =>
  cases ends : offsetFrom (workshop.clock / 1000000000) subject.validityEnd with
  | error fault =>
      simp only [bind, Action.andThen, Action.ofExcept, mapError_ok, Action.gets, seconds, starts,
        ends]
      rfl
  | ok notAfter =>
      simp only [bind, Action.andThen, Action.ofExcept, mapError_ok, Action.gets, seconds, starts,
        ends]
      rfl

variable {workshop bits subject}

theorem generate_of_unmet {requirement : Requirement}
    (first : FirstFailing (workshop.request bits subject).Meets Requirement.inOrder requirement) :
    KeyMaterial.generate bits subject workshop =
      { result := .error (.failure ((workshop.request bits subject).refusal requirement))
        state := workshop
        trace := [] } := by
  have checked := (workshop.request bits subject).period_eq
  rw [first.checkAll_eq] at checked
  rw [generate_eq]
  cases refused : (workshop.request bits subject).period with
  | error error =>
      rw [refused] at checked
      cases checked
      rfl
  | ok moments =>
      rw [refused] at checked
      cases checked

theorem exists_generate_of_met
    (met : ∀ requirement, (workshop.request bits subject).Meets requirement) :
    ∃ notBefore notAfter, KeyMaterial.generate bits subject workshop =
      KeyMaterial.make bits subject notBefore notAfter workshop := by
  have checked := (workshop.request bits subject).period_eq
  rw [checkAll_eq_ok_iff.2 fun requirement _ => met requirement] at checked
  rw [generate_eq]
  cases allowed : (workshop.request bits subject).period with
  | error error =>
      rw [allowed] at checked
      cases checked
  | ok moments => exact ⟨moments.1, moments.2, rfl⟩

end Workshop

/-- The country and the e-mail address fit the alphabets in which they are written. -/
theorem KeyRequest.exists_name {request : KeyRequest} (country : request.Meets .country)
    (email : request.Meets .email) :
    ∃ name, DistinguishedName.ofSubject request.subject = .ok name := by
  have printable : StringKind.printable.admits request.subject.country = true := by
    rw [StringKind.admits, List.all_eq_true]
    intro c member
    rcases country with empty | ⟨_, letters⟩
    · simp [empty] at member
    · simp [StringKind.isPrintable, letters c member]
  have ascii : StringKind.ia5.admits request.subject.email = true := by
    rw [StringKind.admits, Subject.isAscii, List.all_eq_true]
    intro c member
    simpa using email c member
  simp [DistinguishedName.ofSubject, printable, ascii]

/-- What a subject is checked for holds of every request for it that passes. -/
theorem KeyRequest.meets_of_check (request : KeyRequest)
    (accepted : request.subject.check = .ok ()) :
    ∀ requirement ∈ [.validity, .commonName, .country, .email], request.Meets requirement := by
  have checked := request.refuse_check
  rw [accepted] at checked
  exact checkAll_eq_ok_iff.1 checked.symm

/-- The name of a subject that is accepted can be written. -/
theorem Subject.exists_name {subject : Subject} (accepted : subject.check = .ok ()) :
    ∃ name, DistinguishedName.ofSubject subject = .ok name := by
  have met := KeyRequest.meets_of_check { bits := 0, subject, clock := 0 } accepted
  exact KeyRequest.exists_name (met .country (by simp)) (met .email (by simp))

namespace Workshop

section Met

variable {workshop : Workshop} {bits : Nat} {subject : Subject}
  (met : ∀ requirement, (workshop.request bits subject).Meets requirement)
include met

theorem head?_generate_of_met :
    (KeyMaterial.generate bits subject workshop).trace.head? =
      some (.event (.generatingKey bits)) := by
  rcases exists_generate_of_met met with ⟨notBefore, notAfter, made⟩
  rw [made]
  exact KeyMaterial.head?_make bits subject notBefore notAfter workshop

theorem generate_ne_invalidSubject_of_met (fault : NameFault) :
    (KeyMaterial.generate bits subject workshop).result ≠
      .error (.failure (.invalidSubject fault)) := by
  rcases exists_generate_of_met met with ⟨notBefore, notAfter, made⟩
  rcases KeyRequest.exists_name (met .country) (met .email) with ⟨name, named⟩
  rw [made]
  exact KeyMaterial.make_ne_invalidSubject bits subject notBefore notAfter workshop named fault

end Met

/-- A refused request leaves no trace. -/
theorem meets_of_started {workshop : Workshop} {bits size : Nat} {subject : Subject}
    (started : .event (.generatingKey size) ∈ (KeyMaterial.generate bits subject workshop).trace)
    (requirement : Requirement) : (workshop.request bits subject).Meets requirement := by
  by_contra fails
  rcases exists_firstFailing fun each => fails (each requirement requirement.mem_inOrder) with
    ⟨_, first⟩
  rw [generate_of_unmet first] at started
  cases started

/-- A key is made if and only if all conditions are met, and then nothing about the subject is
refused any more; otherwise the first condition that is not met is reported and nothing is done. -/
theorem generation_starts_iff_met (workshop : Workshop) (bits : Nat) (subject : Subject) :
    let request := workshop.request bits subject
    let outcome := KeyMaterial.generate bits subject workshop
    ((∃ size, .event (.generatingKey size) ∈ outcome.trace) ↔
        ∀ requirement, request.Meets requirement) ∧
      ((∀ requirement, request.Meets requirement) →
        outcome.trace.head? = some (.event (.generatingKey bits)) ∧
          ∀ fault, outcome.result ≠ .error (.failure (.invalidSubject fault))) ∧
      ((¬∀ requirement, request.Meets requirement) →
        ∃ requirement, FirstFailing request.Meets Requirement.inOrder requirement ∧
          outcome =
            { result := .error (.failure (request.refusal requirement))
              state := workshop
              trace := [] }) ∧
      (subject.check = .ok () → ∃ name, DistinguishedName.ofSubject subject = .ok name) := by
  intro request outcome
  refine ⟨⟨?_, ?_⟩, ?_, ?_, Subject.exists_name⟩
  · rintro ⟨size, started⟩
    exact meets_of_started started
  · intro met
    exact ⟨bits, List.mem_of_mem_head? (head?_generate_of_met met)⟩
  · intro met
    exact ⟨head?_generate_of_met met, generate_ne_invalidSubject_of_met met⟩
  · intro unmet
    rcases exists_firstFailing fun each =>
        unmet fun requirement => each requirement requirement.mem_inOrder with
      ⟨requirement, first⟩
    exact ⟨requirement, first, generate_of_unmet first⟩

end Workshop

/-- A subject for the second up to the moment of minting. -/
def Subject.pastSecond : Subject where
  validityStart := -1
  validityEnd := 0

namespace Workshop

/-- A workshop at the last second of the year 9999. -/
def lastSecond : Workshop where
  disk := { tree := .empty, workingDirectory := [] }
  clock := CalendarTime.latest * 1000000000 + 999999999
  keys := { seed := [] }

theorem meets_lastSecond (requirement : Requirement) :
    (lastSecond.request 2048 .pastSecond).Meets requirement := by
  cases requirement <;> decide +kernel

theorem generation_starts_iff_met_lastSecond :
    (∀ requirement, (lastSecond.request 2048 .pastSecond).Meets requirement) ∧
      (KeyMaterial.generate 2048 .pastSecond lastSecond).trace.head? =
        some (.event (.generatingKey 2048)) ∧
      (¬∀ requirement, (lastSecond.request 1024 { country := "NÖ", email := "ä" }).Meets
        requirement) ∧
      KeyMaterial.generate 1024 { country := "NÖ", email := "ä" } lastSecond =
        { result := .error (.failure (.invalidSubject (.refused (.countryNotCode "NÖ"))))
          state := lastSecond
          trace := [] } ∧
      Subject.check {} = .ok () ∧ ∃ name, DistinguishedName.ofSubject {} = .ok name := by
  have foreign : ¬(lastSecond.request 1024 { country := "NÖ", email := "ä" }).Meets .country := by
    decide +kernel
  have accepted : Subject.check {} = .ok () := by decide +kernel
  have unmet : ¬∀ requirement, (lastSecond.request 1024 { country := "NÖ", email := "ä" }).Meets
      requirement :=
    fun each => foreign (each .country)
  rcases (generation_starts_iff_met lastSecond 1024 { country := "NÖ", email := "ä" }).2.2.1 unmet
    with ⟨requirement, first, refused⟩
  have isCountry : requirement = .country :=
    first.unique (.later (by decide +kernel) (.later (by decide +kernel) (.here foreign)))
  rw [isCountry] at refused
  exact ⟨meets_lastSecond,
    ((generation_starts_iff_met lastSecond 2048 _).2.1 meets_lastSecond).1, unmet, refused, accepted,
    (generation_starts_iff_met lastSecond 2048 {}).2.2.2 accepted⟩

end Workshop

end MailProvision
