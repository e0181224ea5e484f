import MailProvision.Proofs.Certificate.Requirements

/-!
# How long a certificate is to hold

A subject is accepted when its validity ends after it starts, and nothing bounds how long that is.
The length is therefore positive, but it need not be a 64-bit number: a subject that starts before
the moment of minting can end more than `2 ^ 63` seconds after its start, and the difference taken
in 64 bits is then negative. No certificate is ever made for such a subject, because both ends of a
validity are moments of the calendar, and these are less than 20000 years apart.
-/

namespace MailProvision

namespace Subject

variable {subject : Subject}

/-- The seconds from the start of the validity to its end. -/
def validityLength (subject : Subject) : Int :=
  subject.validityEnd.toInt - subject.validityStart.toInt

theorem validityLength_pos (accepted : subject.check = .ok ()) : 0 < subject.validityLength := by
  have met := KeyRequest.meets_of_check { bits := 0, subject, clock := 0 } accepted
  have forward : subject.validityStart.toInt < subject.validityEnd.toInt :=
    met .validity List.mem_cons_self
  rw [validityLength]
  omega

theorem validitySeconds?_eq_some_iff {seconds : Int64} :
    subject.validitySeconds? = some seconds ↔ seconds.toInt = subject.validityLength := by
  have least := seconds.le_toInt
  have greatest := seconds.toInt_lt
  rw [validitySeconds?, ← validityLength, Int64.toInt_minValue, Int64.toInt_maxValue]
  split
  next fits =>
    have kept : (Int64.ofInt subject.validityLength).toInt = subject.validityLength :=
      Int64.toInt_ofInt_of_le fits.1 (by omega)
    rw [Option.some.injEq, ← Int64.toInt_inj, kept, eq_comm]
  next outside =>
    apply iff_of_false
    · rintro ⟨⟩
    · omega

section Forward

variable (forward : 0 < subject.validityLength)
include forward

theorem validitySeconds?_eq_none_iff :
    subject.validitySeconds? = none ↔ Int64.maxValue.toInt < subject.validityLength := by
  rw [validitySeconds?, ← validityLength, Int64.toInt_minValue, Int64.toInt_maxValue]
  split
  next fits =>
    apply iff_of_false
    · rintro ⟨⟩
    · omega
  next outside =>
    apply iff_of_true rfl
    omega

/-- The difference in 64 bits turns negative exactly where the length is too great for them. -/
theorem sub_neg_iff_long : subject.validityEnd - subject.validityStart < 0 ↔
    Int64.maxValue.toInt < subject.validityLength := by
  have least := subject.validityStart.le_toInt
  have greatest := subject.validityEnd.toInt_lt
  have bounded : subject.validityLength < 2 ^ 64 := by
    rw [validityLength]
    omega
  rw [Int64.lt_iff_toInt_lt, Int64.toInt_sub, ← validityLength, Int64.toInt_zero,
    Int64.toInt_maxValue, Int.bmod_eq_emod]
  split <;> omega

end Forward

/-- A key is only made where both ends of the validity are moments of the calendar. -/
theorem validityLength_le_of_started {workshop : Workshop} {bits size : Nat}
    (started : .event (.generatingKey size) ∈ (KeyMaterial.generate bits subject workshop).trace) :
    subject.validityLength ≤ Int64.maxValue.toInt := by
  have begins : CalendarTime.isRepresentable
      (workshop.clock / 1000000000 + subject.validityStart.toInt) = true :=
    (KeyRequest.isRepresentable_iff _).2 (Workshop.meets_of_started started .start)
  have finishes : CalendarTime.isRepresentable
      (workshop.clock / 1000000000 + subject.validityEnd.toInt) = true :=
    (KeyRequest.isRepresentable_iff _).2 (Workshop.meets_of_started started .finish)
  have calendar : CalendarTime.latest - CalendarTime.earliest ≤ Int64.maxValue.toInt := by decide
  simp only [CalendarTime.isRepresentable, Bool.and_eq_true, decide_eq_true_iff] at begins finishes
  rw [validityLength]
  omega

/-- The validity of an accepted subject has a positive length. It is a 64-bit number unless it is
longer than these reach, as it can be only where it starts before the moment of minting, and then no
key is made; the difference in 64 bits is negative there. -/
theorem validity_fits_unless_long {subject : Subject} (accepted : subject.check = .ok ()) :
    0 < subject.validityLength ∧
      (∀ seconds, subject.validitySeconds? = some seconds ↔
        seconds.toInt = subject.validityLength) ∧
      (∀ seconds, subject.validitySeconds? = some seconds → 0 < seconds) ∧
      (subject.validitySeconds? = none ↔ Int64.maxValue.toInt < subject.validityLength) ∧
      (subject.validitySeconds? = none ↔ subject.validityEnd - subject.validityStart < 0) ∧
      (subject.validitySeconds? = none → subject.validityStart < 0) ∧
      ∀ workshop bits size,
        .event (.generatingKey size) ∈ (KeyMaterial.generate bits subject workshop).trace →
          ∃ seconds, subject.validitySeconds? = some seconds := by
  have forward := validityLength_pos accepted
  have long := validitySeconds?_eq_none_iff forward
  refine ⟨forward, fun seconds => validitySeconds?_eq_some_iff, ?_, long, ?_, ?_, ?_⟩
  · intro seconds fits
    rw [Int64.lt_iff_toInt_lt, Int64.toInt_zero, validitySeconds?_eq_some_iff.1 fits]
    exact forward
  · rw [long, sub_neg_iff_long forward]
  · intro overflows
    have tooLong := long.1 overflows
    have greatest := subject.validityEnd.toInt_le
    rw [Int64.lt_iff_toInt_lt, Int64.toInt_zero]
    rw [validityLength] at tooLong
    omega
  · intro workshop bits size started
    have short := validityLength_le_of_started started
    cases length : subject.validitySeconds? with
    | some seconds => exact ⟨seconds, rfl⟩
    | none => exact absurd (long.1 length) (Int.not_lt.2 short)

/-- A subject that starts a second before the moment of minting and ends as late as can be said. -/
def tooLong : Subject where
  validityStart := -1
  validityEnd := Int64.maxValue

theorem validity_fits_unless_long_second :
    pastSecond.check = .ok () ∧
      pastSecond.validitySeconds? = some 1 ∧ (0 : Int64) < 1 ∧
      .event (.generatingKey 2048) ∈
        (KeyMaterial.generate 2048 pastSecond Workshop.lastSecond).trace ∧
      (∃ seconds, pastSecond.validitySeconds? = some seconds) ∧
      tooLong.check = .ok () ∧ tooLong.validitySeconds? = none ∧ tooLong.validityStart < 0 := by
  have accepted : pastSecond.check = .ok () := by decide +kernel
  have allowed : tooLong.check = .ok () := by decide +kernel
  have second : pastSecond.validitySeconds? = some 1 := by decide
  have overflows : tooLong.validitySeconds? = none := by decide
  have started : .event (.generatingKey 2048) ∈
      (KeyMaterial.generate 2048 pastSecond Workshop.lastSecond).trace :=
    List.mem_of_mem_head? (Workshop.head?_generate_of_met Workshop.meets_lastSecond)
  rcases validity_fits_unless_long accepted with ⟨_, _, positive, _, _, _, fits⟩
  rcases validity_fits_unless_long allowed with ⟨_, _, _, _, _, early, _⟩
  exact ⟨accepted, second, positive 1 second, started, fits _ _ _ started, allowed, overflows,
    early overflows⟩

/-- The check compares the ends of the validity and does not bound what lies between them. -/
theorem check_accepts_too_long :
    tooLong.check = .ok () ∧ tooLong.validitySeconds? = none ∧
      tooLong.validityEnd - tooLong.validityStart < 0 := by
  decide +kernel

end Subject

end MailProvision
