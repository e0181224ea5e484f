import Mathlib.Data.List.Basic
import MailProvision.Numeral.Reading

/-!
# Whole numbers in decimal

A whole number written in decimal, without superfluous zeros and with a minus where it is negative,
is read back as the number that it was (`int?_toString`).
-/

namespace MailProvision

namespace Numeral

theorem isDigit_iff {c : Char} : c.isDigit = true ↔ 48 ≤ c.toNat ∧ c.toNat ≤ 57 := by
  simp only [Char.isDigit, Bool.and_eq_true, decide_eq_true_eq, ge_iff_le,
    UInt32.le_iff_toNat_le]
  exact Iff.rfl

theorem digit?_of_isDigit {c : Char} (digit : c.isDigit = true) :
    digit? c = some (c.toNat - '0'.toNat) := by
  rcases isDigit_iff.1 digit with ⟨low, high⟩
  have within : '0' ≤ c ∧ c ≤ '9' := ⟨low, high⟩
  simp [digit?, within]

@[simp] theorem isSome_digit? (c : Char) : (digit? c).isSome = c.isDigit := by
  by_cases digit : c.isDigit = true
  · rw [digit?_of_isDigit digit, digit]
    rfl
  · have outside : ¬('0' ≤ c ∧ c ≤ '9') := fun within => digit (isDigit_iff.2 within)
    simp [digit?, outside, digit]

theorem digitIn?_of_isDigit {c : Char} (digit : c.isDigit = true) :
    digitIn? 10 c = some (c.toNat - '0'.toNat) := by
  rcases isDigit_iff.1 digit with ⟨low, high⟩
  have within : '0' ≤ c ∧ c ≤ '9' := ⟨low, high⟩
  have small : c.toNat - '0'.toNat < 10 := by
    change c.toNat - 48 < 10
    omega
  simp only [digitIn?, within, decide_true, Bool.and_self, ↓reduceIte, Option.filter_some, small]

theorem mapM_digitIn? {chars : List Char} (digits : ∀ c ∈ chars, c.isDigit = true) :
    chars.mapM (digitIn? 10) = some (chars.map fun c => c.toNat - '0'.toNat) := by
  induction chars with
  | nil => rfl
  | cons c rest ih =>
      rw [List.mapM_cons, digitIn?_of_isDigit (digits c List.mem_cons_self),
        ih fun other member => digits other (List.mem_cons_of_mem _ member)]
      rfl

/-- Digits are read as the number that they are the digits of. -/
theorem nat?_of_isDigit {chars : List Char} (nonempty : chars ≠ [])
    (digits : ∀ c ∈ chars, c.isDigit = true) :
    nat? chars = some (Nat.ofDigitChars 10 chars 0) := by
  have notEmpty : chars.isEmpty = false := by simpa using nonempty
  rw [nat?, natIn?, notEmpty, mapM_digitIn? digits]
  exact congrArg some List.foldl_map

theorem isDigit_toDigits (n : Nat) : ∀ c ∈ Nat.toDigits 10 n, c.isDigit = true :=
  fun _ member => Nat.isDigit_of_mem_toDigits (by decide) (by decide) member

theorem nat?_toDigits (n : Nat) : nat? (Nat.toDigits 10 n) = some n := by
  rw [nat?_of_isDigit Nat.toDigits_ne_nil (isDigit_toDigits n), Nat.ofDigitChars_ten_toDigits]

/-- Only the digits of zero start with a zero. -/
theorem head?_toDigits {n : Nat} (positive : 0 < n) :
    (Nat.toDigits 10 n).head? ≠ some '0' := by
  induction n using Nat.strongRecOn with
  | _ n ih =>
      by_cases small : n < 10
      · rw [Nat.toDigits_of_lt_base small, List.head?_cons, ne_eq, Option.some_inj,
          Nat.digitChar_eq_zero]
        omega
      · rw [Nat.toDigits_of_base_le (by decide) (by omega),
          List.head?_append_of_ne_nil _ Nat.toDigits_ne_nil]
        exact ih (n / 10) (by omega) (by omega)

theorem toDigits_eq_zero_cons {n : Nat} {rest : List Char}
    (zero : Nat.toDigits 10 n = '0' :: rest) : n = 0 ∧ rest = [] := by
  have none : n = 0 := by
    by_contra positive
    exact head?_toDigits (Nat.pos_of_ne_zero positive) (by rw [zero, List.head?_cons])
  subst none
  cases zero
  exact ⟨rfl, rfl⟩

theorem toString_toList (i : Int) :
    (toString i).toList = (if i < 0 then ['-'] else []) ++ Nat.toDigits 10 i.natAbs := by
  cases i with
  | ofNat n => simp [Int.toString_eq_repr, Int.repr_eq_if]
  | negSucc n => simp [Int.repr_eq_if, Int.negSucc_lt_zero]

theorem splitSign_of_isDigit {chars : List Char} (digits : ∀ c ∈ chars, c.isDigit = true) :
    splitSign chars = (false, chars) := by
  unfold splitSign
  split
  · exact absurd (digits '+' List.mem_cons_self) (by decide)
  · exact absurd (digits '-' List.mem_cons_self) (by decide)
  · rfl

theorem splitSign_toString (i : Int) :
    splitSign (toString i).toList = (decide (i < 0), Nat.toDigits 10 i.natAbs) := by
  rw [toString_toList]
  by_cases negative : i < 0
  · rw [if_pos negative, decide_eq_true negative]
    rfl
  · rw [if_neg negative, decide_eq_false negative]
    exact splitSign_of_isDigit (isDigit_toDigits i.natAbs)

theorem signed_natAbs (i : Int) :
    (if decide (i < 0) = true then -(i.natAbs : Int) else i.natAbs) = i := by
  by_cases negative : i < 0
  · rw [if_pos (decide_eq_true negative)]
    omega
  · rw [if_neg (by simpa using negative)]
    omega

theorem int?_toString (i : Int) : int? (toString i).toList = some i := by
  simp only [int?, splitSign_toString, nat?_toDigits]
  exact congrArg some (signed_natAbs i)

theorem int64?_toString {i : Int} (within : isInt64 i = true) :
    int64? (toString i).toList = some i := by
  rw [int64?, int?_toString, Option.filter_some, if_pos within]

/-! ### What spells a whole number -/

theorem isDigit_of_digitIn? {c : Char} {n : Nat} (read : digitIn? 10 c = some n) :
    c.isDigit = true := by
  by_contra other
  have outside : ¬('0' ≤ c ∧ c ≤ '9') := fun within => other (isDigit_iff.2 within)
  rcases Option.filter_eq_some_iff.mp read with ⟨value, below⟩
  simp only [Bool.and_eq_true, decide_eq_true_eq, outside, ↓reduceIte] at value below
  split at value
  · cases value
    omega
  · split at value
    · cases value
      omega
    · cases value

theorem isDigit_of_nat? {chars : List Char} {n : Nat} (read : nat? chars = some n) :
    ∀ c ∈ chars, c.isDigit = true := by
  unfold nat? natIn? at read
  split at read
  · cases read
  · rename_i nonempty
    clear nonempty
    rcases Option.map_eq_some_iff.mp read with ⟨digits, mapped, same⟩
    clear read same
    induction chars generalizing digits with
    | nil => exact fun c member => (List.not_mem_nil member).elim
    | cons first rest ih =>
        rw [List.mapM_cons] at mapped
        rcases Option.bind_eq_some_iff.mp mapped with ⟨digit, front, others⟩
        rcases Option.bind_eq_some_iff.mp others with ⟨more, back, _⟩
        intro c member
        rcases List.mem_cons.mp member with rfl | later
        · exact isDigit_of_digitIn? front
        · exact ih more back c later

theorem splitSign_cases (chars : List Char) :
    (splitSign chars).2 = chars ∨
      chars = '+' :: (splitSign chars).2 ∨ chars = '-' :: (splitSign chars).2 := by
  unfold splitSign
  split
  · exact .inr (.inl rfl)
  · exact .inr (.inr rfl)
  · exact .inl rfl

theorem mem_of_int? {chars : List Char} {i : Int} (read : int? chars = some i) :
    ∀ c ∈ chars, c = '+' ∨ c = '-' ∨ c.isDigit = true := by
  rcases Option.map_eq_some_iff.mp read with ⟨_, whole, _⟩
  rcases Option.bind_eq_some_iff.mp whole with ⟨n, unsigned, _⟩
  have digits : ∀ c ∈ (splitSign chars).2, c.isDigit = true := isDigit_of_nat? unsigned
  intro c member
  rcases splitSign_cases chars with same | plus | minus
  · rw [same] at digits
    exact .inr (.inr (digits c member))
  · rw [plus] at member
    exact (List.mem_cons.mp member).imp_right fun later => .inr (digits c later)
  · rw [minus] at member
    rcases List.mem_cons.mp member with rfl | later
    · exact .inr (.inl rfl)
    · exact .inr (.inr (digits c later))

end Numeral

end MailProvision
