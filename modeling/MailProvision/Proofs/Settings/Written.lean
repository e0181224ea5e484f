import Mathlib.Data.List.TakeDrop
import MailProvision.Proofs.Numeral.Decimal
import MailProvision.Proofs.Settings.Building
import MailProvision.Settings.Environment
import MailProvision.Settings.Json
import MailProvision.Settings.Toml.Reader
import MailProvision.Settings.Yaml.Scalar

/-!
# Whole numbers as variables and files spell them

A whole number of the signed 64-bit range that is written in decimal becomes that integer, in a
variable as in each of the formats.
-/

namespace MailProvision

namespace Settings

open Numeral

/-- A variable that spells an integer of 64 bits, however it does, is that integer. -/
theorem Environment.content_of_int64? {text : String} {i : Int}
    (spelled : int64? text.toList = some i) : Environment.content text = .integer i := by
  have chars := mem_of_int? (Option.filter_eq_some_iff.mp spelled).1
  have same : Text.lower text = text := by
    refine Text.lower_eq_self_iff.2 fun c member => Text.lowerChar_of_lt ?_
    rcases chars c member with rfl | rfl | digit
    · decide
    · decide
    · exact Nat.lt_of_le_of_lt (isDigit_iff.1 digit).2 (by decide)
  unfold Environment.content
  rw [same]
  split
  · exact absurd (chars 't' (by decide)) (by decide)
  · exact absurd (chars 'f' (by decide)) (by decide)
  · rw [spelled]

namespace Json

theorem digits_append {chars rest : List Char} (digits : ∀ c ∈ chars, c.isDigit = true)
    (ends : ∀ c ∈ rest.head?, c.isDigit = false) :
    Json.digits (chars ++ rest) = (chars.map fun c => c.toNat - '0'.toNat, rest) := by
  have all : ∀ c ∈ chars, (digit? c).isSome = true := fun c member => by
    rw [isSome_digit?, digits c member]
  have stops : rest.takeWhile (fun c => (digit? c).isSome) = [] ∧
      rest.dropWhile (fun c => (digit? c).isSome) = rest := by
    cases rest with
    | nil => exact ⟨rfl, rfl⟩
    | cons c others => simp [ends c rfl]
  have numbers : chars.filterMap digit? = chars.map fun c => c.toNat - '0'.toNat := by
    rw [← List.filterMap_eq_map]
    exact List.filterMap_congr fun c member => digit?_of_isDigit (digits c member)
  rw [Json.digits, spanDigits, List.span_eq_takeWhile_dropWhile,
    List.takeWhile_append_of_pos all, List.dropWhile_append_of_pos all, stops.1, stops.2,
    List.append_nil]
  exact congrArg (·, rest) numbers

theorem le_ofDigits (digits : List Nat) (n : Nat) :
    n ≤ digits.foldl (fun n digit => 10 * n + digit) n := by
  induction digits generalizing n with
  | nil => exact Nat.le_refl n
  | cons digit rest ih => exact Nat.le_trans (by omega) (ih (10 * n + digit))

/-- Digits whose number fits into 64 bits are all added up. -/
theorem gather_eq {significand : Nat} {digits : List Nat}
    (fits : digits.foldl (fun n digit => 10 * n + digit) significand ≤ significandLimit) :
    gather significand digits =
      (digits.foldl (fun n digit => 10 * n + digit) significand, digits.length, 0) := by
  induction digits generalizing significand with
  | nil => rfl
  | cons digit rest ih =>
      have short : ¬significandLimit < significand * 10 + digit := by
        have grows := Nat.le_trans (le_ofDigits rest (10 * significand + digit)) fits
        omega
      rw [gather, if_neg short, Nat.mul_comm significand, ih fits]
      rfl

/-- The end of a whole number: no digit follows, no point and no exponent. -/
def Ends (rest : List Char) : Prop :=
  ∀ c ∈ rest.head?, c.isDigit = false ∧ c ≠ '.' ∧ c ≠ 'e' ∧ c ≠ 'E'

theorem unsigned?_toDigits {negative : Bool} {n : Nat} {i : Int}
    (signed : i = if negative then -(n : Int) else n) (within : isInt64 i = true)
    (nonzero : ¬(negative = true ∧ n = 0)) {rest : List Char} (ends : Ends rest) :
    unsigned? negative (Nat.toDigits 10 n ++ rest) = some (.integer i, rest) := by
  have total : ((Nat.toDigits 10 n).map fun c => c.toNat - '0'.toNat).foldl
      (fun n digit => 10 * n + digit) 0 = n := by
    rw [List.foldl_map]
    exact Nat.ofDigitChars_ten_toDigits
  have fits : n ≤ significandLimit := by
    have bounds : -9223372036854775808 ≤ i ∧ i ≤ 9223372036854775807 := by
      simpa [isInt64] using within
    unfold significandLimit
    cases negative <;> simp at signed <;> omega
  have gathered := gather_eq (Nat.le_trans (Nat.le_of_eq total) fits)
  rw [total] at gathered
  have noPoint : ∀ after, rest ≠ '.' :: after := by
    rintro after rfl
    exact (ends '.' rfl).2.1 rfl
  have noExponent : ¬(rest.head? = some 'e' ∨ rest.head? = some 'E') := by
    rintro (small | capital)
    · exact (ends 'e' small).2.2.1 rfl
    · exact (ends 'E' capital).2.2.2 rfl
  rw [unsigned?, digits_append (isDigit_toDigits n) fun c member => (ends c member).1]
  split
  · rename_i empty
    have none := congrArg Prod.fst empty
    exact absurd (List.map_eq_nil_iff.mp none) Nat.toDigits_ne_nil
  · -- A zero in front of other digits is refused, but no whole number is written with one.
    rename_i first others final zeros
    rcases List.map_eq_cons_iff.mp (congrArg Prod.fst zeros) with ⟨c, front, spelled, zero, more⟩
    have digit := isDigit_iff.1 (isDigit_toDigits n c (spelled ▸ List.mem_cons_self))
    have isZero : c = '0' := by
      change c.toNat - 48 = 0 at zero
      exact Char.ext (UInt32.toNat_inj.mp (show c.toNat = 48 by omega))
    rw [isZero] at spelled
    rw [(toDigits_eq_zero_cons spelled).2] at more
    cases more
  · rename_i whole others _ _ read
    cases read
    have kept : (isInt64 i && !(negative && decide (n = 0))) = true := by
      rw [within, Bool.true_and]
      cases negative <;> simp_all
    rw [gathered]
    dsimp only
    split
    · exact absurd rfl (noPoint _)
    · have plain : ¬(decide ((0 : Nat) ≠ 0) || decide (rest.head? = some 'e') ||
          decide (rest.head? = some 'E')) = true := by
        simpa using noExponent
      rw [if_neg plain, ← signed, if_pos kept]

theorem number?_toString {i : Int} (within : isInt64 i = true) {rest : List Char}
    (ends : Ends rest) : number? ((toString i).toList ++ rest) = some (.integer i, rest) := by
  rw [toString_toList]
  by_cases negative : i < 0
  · have unsigned : unsigned? true (Nat.toDigits 10 i.natAbs ++ rest) = some (.integer i, rest) :=
      unsigned?_toDigits (by rw [if_pos rfl]; omega) within (by omega) ends
    rw [if_pos negative]
    exact unsigned
  · have unsigned : unsigned? false (Nat.toDigits 10 i.natAbs ++ rest) = some (.integer i, rest) :=
      unsigned?_toDigits (by rw [if_neg (by decide)]; omega) within (by simp) ends
    rw [if_neg negative]
    unfold number?
    split
    · rename_i minus
      have first : '-' ∈ Nat.toDigits 10 i.natAbs := by
        cases digits : Nat.toDigits 10 i.natAbs with
        | nil => exact absurd digits Nat.toDigits_ne_nil
        | cons c others =>
            rw [digits] at minus
            exact (List.cons.inj minus).1 ▸ List.mem_cons_self
      exact absurd (isDigit_toDigits i.natAbs '-' first) (by decide)
    · exact unsigned

end Json

/-- The digits of a whole number do not announce another base. -/
theorem toDigits_ne_based (n : Nat) (c : Char) (rest : List Char) :
    Nat.toDigits 10 n ≠ '0' :: c :: rest := by
  intro zero
  cases (toDigits_eq_zero_cons zero).2

theorem toString_ne_plus (i : Int) (rest : List Char) : (toString i).toList ≠ '+' :: rest := by
  rw [toString_toList]
  intro plus
  by_cases negative : i < 0
  · rw [if_pos negative] at plus
    exact absurd (List.cons.inj plus).1 (by decide)
  · rw [if_neg negative, List.nil_append] at plus
    exact absurd (isDigit_toDigits i.natAbs '+' (plus ▸ List.mem_cons_self)) (by decide)

theorem toString_ne_based (i : Int) (c : Char) (rest : List Char) :
    (toString i).toList ≠ '0' :: c :: rest := by
  rw [toString_toList]
  by_cases negative : i < 0
  · rw [if_pos negative]
    exact fun same => absurd (List.cons.inj same).1 (by decide)
  · rw [if_neg negative]
    exact toDigits_ne_based _ c rest

theorem Toml.joinDigits?_of_isDigit {chars : List Char} (nonempty : chars ≠ [])
    (digits : ∀ c ∈ chars, c.isDigit = true) : joinDigits? Char.isDigit chars = some chars := by
  induction chars with
  | nil => exact absurd rfl nonempty
  | cons c rest ih =>
      have digit := digits c List.mem_cons_self
      have others : ∀ c ∈ rest, c.isDigit = true :=
        fun other member => digits other (List.mem_cons_of_mem _ member)
      cases rest with
      | nil => simp [joinDigits?, digit]
      | cons next more =>
          have noUnderscore : next ≠ '_' := by
            rintro rfl
            exact absurd (others '_' List.mem_cons_self) (by decide)
          have joined := ih (List.cons_ne_nil next more) others
          simp [joinDigits?, digit, joined, noUnderscore]

theorem Toml.wholePart?_toDigits (n : Nat) :
    wholePart? (Nat.toDigits 10 n) = some (Nat.toDigits 10 n) := by
  rw [wholePart?, joinDigits?_of_isDigit Nat.toDigits_ne_nil (isDigit_toDigits n)]
  split
  · exact absurd (Option.some.inj ‹_›) (toDigits_ne_based n _ _)
  · rfl

theorem Toml.integer?_toString {i : Int} (within : isInt64 i = true) :
    Toml.integer? (toString i).toList = some i := by
  unfold integer?
  split
  · exact absurd ‹_› (toString_ne_based i 'x' _)
  · exact absurd ‹_› (toString_ne_based i 'o' _)
  · exact absurd ‹_› (toString_ne_based i 'b' _)
  · simp only [splitSign_toString, wholePart?_toDigits, Option.bind_some, nat?_toDigits]
    refine (congrArg (Option.filter isInt64) (congrArg some (signed_natAbs i))).trans ?_
    rw [Option.filter_some, if_pos within]

theorem Yaml.plain?_toString {i : Int} (within : isInt64 i = true) :
    Yaml.plain? (toString i) = some (.integer i) := by
  have read : Yaml.integer? (toString i).toList = some i := by
    unfold Yaml.integer?
    split
    · exact absurd ‹_› (toString_ne_based i 'x' _)
    · exact absurd ‹_› (toString_ne_based i 'o' _)
    · exact absurd ‹_› (toString_ne_plus i _)
    · exact int64?_toString within
  simp only [Yaml.plain?, read]

end Settings

end MailProvision
