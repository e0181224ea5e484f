/-!
# Checks in order

Conditions are checked one after the other, and the first that does not hold is the one reported
(`checkAll`). Which one that is, is said here without checking (`FirstFailing`).
-/

namespace MailProvision

variable {Check Failure : Type}

/-- The first item of a list for which a condition does not hold. -/
inductive FirstFailing (Holds : Check → Prop) : List Check → Check → Prop
  | here {check : Check} {rest : List Check} (fails : ¬Holds check) :
      FirstFailing Holds (check :: rest) check
  | later {check failing : Check} {rest : List Check} (holds : Holds check)
      (first : FirstFailing Holds rest failing) : FirstFailing Holds (check :: rest) failing

/-- Refuses with the first item of a list for which a condition does not hold. -/
def checkAll (Holds : Check → Prop) [DecidablePred Holds] (failure : Check → Failure) :
    List Check → Except Failure Unit
  | [] => .ok ()
  | check :: rest => if Holds check then checkAll Holds failure rest else .error (failure check)

section CheckAll

variable (Holds : Check → Prop) [DecidablePred Holds] (failure : Check → Failure)
  (checks : List Check)

theorem checkAll_cases :
    ((∀ check ∈ checks, Holds check) ∧ checkAll Holds failure checks = .ok ()) ∨
      ∃ failing, FirstFailing Holds checks failing ∧
        checkAll Holds failure checks = .error (failure failing) := by
  induction checks with
  | nil => exact .inl ⟨fun _ member => absurd member List.not_mem_nil, rfl⟩
  | cons check rest ih =>
      by_cases holds : Holds check
      · rw [checkAll, if_pos holds]
        rcases ih with ⟨each, accepted⟩ | ⟨failing, first, refused⟩
        · exact .inl ⟨List.forall_mem_cons.mpr ⟨holds, each⟩, accepted⟩
        · exact .inr ⟨failing, .later holds first, refused⟩
      · rw [checkAll, if_neg holds]
        exact .inr ⟨check, .here holds, rfl⟩

theorem checkAll_append (more : List Check) :
    checkAll Holds failure (checks ++ more) =
      checkAll Holds failure checks >>= fun _ => checkAll Holds failure more := by
  induction checks with
  | nil => rfl
  | cons check rest ih =>
      rw [List.cons_append, checkAll, checkAll]
      by_cases holds : Holds check
      · rw [if_pos holds, if_pos holds, ih]
      · rw [if_neg holds, if_neg holds]
        rfl

end CheckAll

namespace FirstFailing

variable {Holds : Check → Prop} {checks : List Check} {failing : Check}

theorem mem (first : FirstFailing Holds checks failing) : failing ∈ checks := by
  induction first with
  | here fails => exact List.mem_cons_self
  | later holds first ih => exact List.mem_cons_of_mem _ ih

theorem fails (first : FirstFailing Holds checks failing) : ¬Holds failing := by
  induction first with
  | here fails => exact fails
  | later holds first ih => exact ih

theorem unique {other : Check} (first : FirstFailing Holds checks failing)
    (again : FirstFailing Holds checks other) : failing = other := by
  induction first with
  | here fails =>
      cases again with
      | here _ => rfl
      | later holds _ => exact absurd holds fails
  | later holds first ih =>
      cases again with
      | here fails => exact absurd holds fails
      | later _ again => exact ih again

variable [DecidablePred Holds]

theorem checkAll_eq (first : FirstFailing Holds checks failing) (failure : Check → Failure) :
    checkAll Holds failure checks = .error (failure failing) := by
  rcases checkAll_cases Holds failure checks with ⟨each, _⟩ | ⟨other, again, refused⟩
  · exact absurd (each failing first.mem) first.fails
  · rw [refused, first.unique again]

end FirstFailing

theorem exists_firstFailing {Holds : Check → Prop} {checks : List Check}
    (someFails : ¬∀ check ∈ checks, Holds check) :
    ∃ failing, FirstFailing Holds checks failing := by
  induction checks with
  | nil => exact absurd (fun _ member => absurd member List.not_mem_nil) someFails
  | cons check rest ih =>
      by_cases holds : Holds check
      · rw [List.forall_mem_cons, and_iff_right holds] at someFails
        rcases ih someFails with ⟨failing, first⟩
        exact ⟨failing, .later holds first⟩
      · exact ⟨check, .here holds⟩

theorem checkAll_eq_ok_iff {Holds : Check → Prop} [DecidablePred Holds] {failure : Check → Failure}
    {checks : List Check} :
    checkAll Holds failure checks = .ok () ↔ ∀ check ∈ checks, Holds check := by
  rcases checkAll_cases Holds failure checks with ⟨each, accepted⟩ | ⟨failing, first, refused⟩
  · exact iff_of_true accepted each
  · rw [refused]
    apply iff_of_false
    · rintro ⟨⟩
    · intro each
      exact first.fails (each failing first.mem)

end MailProvision
