import MailProvision.Certificate.Pem

/-!
# Reading armoured text back

Every character that base 64 writes is read as the number that it was written for, so groups of
bytes are read back one by one. The lines of a block break the text but hold nothing else, and none
of its characters is a dash, at which the block would end.
-/

namespace MailProvision

namespace Base64

theorem value?_digit_of_lt : ∀ n < 64, value? (digit n) = some n := by
  decide +kernel

theorem isDigit_of_lt : ∀ n < 64, digit n ≠ '=' ∧ digit n ≠ '-' ∧ digit n ≠ '\n' := by
  decide +kernel

theorem digit_mod (n : Nat) : digit (n % 64) = digit n := by
  unfold digit
  rw [Nat.mod_mod]

theorem value?_digit {n : Nat} (bound : n < 64) : value? (digit n) = some n :=
  value?_digit_of_lt n bound

theorem digit_ne (n : Nat) : digit n ≠ '=' ∧ digit n ≠ '-' ∧ digit n ≠ '\n' := by
  rw [← digit_mod]
  exact isDigit_of_lt _ (Nat.mod_lt n (by decide))

/-- Four characters of which the last fills nothing up. -/
theorem decode?_group {a b c d : Nat} (rest : List Char) (first : a < 64) (second : b < 64)
    (third : c < 64) (fourth : d < 64) :
    decode? (digit a :: digit b :: digit c :: digit d :: rest) =
      (decode? rest).map fun bytes =>
        UInt8.ofNat ((((a * 64 + b) * 64 + c) * 64 + d) / 65536) ::
          UInt8.ofNat ((((a * 64 + b) * 64 + c) * 64 + d) / 256) ::
            UInt8.ofNat (((a * 64 + b) * 64 + c) * 64 + d) :: bytes := by
  have solid := (digit_ne d).1
  rw [decode?]
  · simp only [value?_digit first, value?_digit second, value?_digit third, value?_digit fourth,
      bind, Option.bind]
    cases decode? rest with
    | none => rfl
    | some bytes => rfl
  · intro _ filled _
    exact absurd filled solid
  · intro filled _
    exact absurd filled solid

theorem ofNat_eq {n : Nat} {byte : UInt8} (same : n % 256 = byte.toNat) : UInt8.ofNat n = byte := by
  apply UInt8.toNat_inj.mp
  rw [UInt8.toNat_ofNat', ← same]

/-- Bytes are read back from their characters. -/
theorem decode?_encode (bytes : List UInt8) : decode? (encode bytes) = some bytes := by
  induction bytes using encode.induct with
  | case1 => rfl
  | case2 a =>
      have bound := a.toNat_lt
      have high : a.toNat / 4 < 64 := by omega
      have low : a.toNat % 4 * 16 < 64 := by omega
      have padded : a.toNat % 4 * 16 % 16 = 0 := by omega
      have same : UInt8.ofNat (a.toNat / 4 * 4 + a.toNat % 4 * 16 / 16) = a := ofNat_eq (by omega)
      rw [encode, decode?]
      simp only [value?_digit high, value?_digit low, bind, Option.bind, padded, if_true, same]
  | case3 a b =>
      have boundA := a.toNat_lt
      have boundB := b.toNat_lt
      have solid := (digit_ne ((a.toNat * 256 + b.toNat) % 16 * 4)).1
      generalize number : a.toNat * 256 + b.toNat = n at solid
      have high : n / 1024 < 64 := by omega
      have middle : n / 16 % 64 < 64 := by omega
      have low : n % 16 * 4 < 64 := by omega
      have whole : (n / 1024 * 64 + n / 16 % 64) * 64 + n % 16 * 4 = n * 4 := by omega
      have padded : n * 4 % 4 = 0 := by omega
      have sameA : UInt8.ofNat (n * 4 / 1024) = a := ofNat_eq (by omega)
      have sameB : UInt8.ofNat (n * 4 / 4) = b := ofNat_eq (by omega)
      rw [encode]
      simp only [number]
      rw [decode?]
      · simp only [value?_digit high, value?_digit middle, value?_digit low, bind, Option.bind,
          whole, padded, if_true, sameA, sameB]
      · intro filled
        exact absurd filled solid
  | case4 a b c rest ih =>
      have boundA := a.toNat_lt
      have boundB := b.toNat_lt
      have boundC := c.toNat_lt
      rw [encode]
      generalize number : (a.toNat * 256 + b.toNat) * 256 + c.toNat = n
      have whole : ((n / 262144 * 64 + n / 4096 % 64) * 64 + n / 64 % 64) * 64 + n % 64 = n := by
        omega
      have sameA : UInt8.ofNat (n / 65536) = a := ofNat_eq (by omega)
      have sameB : UInt8.ofNat (n / 256) = b := ofNat_eq (by omega)
      have sameC : UInt8.ofNat n = c := ofNat_eq (by omega)
      rw [decode?_group _ (by omega) (by omega) (by omega) (by omega), ih, Option.map_some, whole,
        sameA, sameB, sameC]

/-- Every character of the text is a digit or fills the text up. -/
theorem mem_encode_cases {c : Char} {bytes : List UInt8} (member : c ∈ encode bytes) :
    c = '=' ∨ ∃ n < 64, c = digit n := by
  have written (n : Nat) : digit n = '=' ∨ ∃ m < 64, digit n = digit m :=
    .inr ⟨n % 64, Nat.mod_lt n (by decide), (digit_mod n).symm⟩
  induction bytes using encode.induct with
  | case1 => cases member
  | case2 a =>
      simp only [encode, List.mem_cons, List.not_mem_nil, or_false] at member
      rcases member with rfl | rfl | rfl | rfl
      · exact written _
      · exact written _
      · exact .inl rfl
      · exact .inl rfl
  | case3 a b =>
      simp only [encode, List.mem_cons, List.not_mem_nil, or_false] at member
      rcases member with rfl | rfl | rfl | rfl
      · exact written _
      · exact written _
      · exact written _
      · exact .inl rfl
  | case4 a b c rest ih =>
      simp only [encode, List.mem_cons] at member
      rcases member with rfl | rfl | rfl | rfl | later
      · exact written _
      · exact written _
      · exact written _
      · exact written _
      · exact ih later

/-- No character of the text ends a line or begins a boundary. -/
theorem ne_of_mem_encode {c : Char} {bytes : List UInt8} (member : c ∈ encode bytes) :
    c ≠ '-' ∧ c ≠ '\n' := by
  rcases mem_encode_cases member with rfl | ⟨n, _, rfl⟩
  · decide
  · exact (digit_ne n).2

end Base64

namespace Pem

theorem inLines_nil : inLines [] = [] := by
  rw [inLines]

theorem inLines_cons (c : Char) (rest : List Char) :
    inLines (c :: rest) =
      (c :: rest).take lineWidth ++ '\n' :: inLines ((c :: rest).drop lineWidth) := by
  rw [inLines]

/-- Lines hold what they break, and the ends of lines. -/
theorem filter_inLines {chars : List Char} (unbroken : '\n' ∉ chars) :
    (inLines chars).filter (· ≠ '\n') = chars := by
  induction chars using inLines.induct with
  | case1 => rw [inLines_nil]; rfl
  | case2 c rest ih =>
      have later : '\n' ∉ (c :: rest).drop lineWidth := fun member =>
        unbroken (List.mem_of_mem_drop member)
      have front : ((c :: rest).take lineWidth).filter (· ≠ '\n') = (c :: rest).take lineWidth := by
        apply List.filter_eq_self.mpr
        intro char member
        have other : char ≠ '\n' := by
          rintro rfl
          exact unbroken (List.mem_of_mem_take member)
        simpa using other
      rw [inLines_cons, List.filter_append, front, List.filter_cons_of_neg (by decide), ih later,
        List.take_append_drop]

theorem mem_of_mem_inLines {chars : List Char} {c : Char} (member : c ∈ inLines chars)
    (inside : c ≠ '\n') : c ∈ chars := by
  induction chars using inLines.induct with
  | case1 =>
      rw [inLines_nil] at member
      exact member
  | case2 first rest ih =>
      rw [inLines_cons, List.mem_append, List.mem_cons] at member
      rcases member with front | ending | later
      · exact List.mem_of_mem_take front
      · exact absurd ending inside
      · exact List.mem_of_mem_drop (ih later)

theorem after?_append (beginning rest : List Char) :
    after? beginning (beginning ++ rest) = some rest := by
  have begins : beginning.isPrefixOf (beginning ++ rest) = true :=
    List.isPrefixOf_iff_prefix.mpr (List.prefix_append _ _)
  rw [after?, begins, if_pos rfl, List.drop_left]

/-- Bytes are read back from their block. -/
theorem decode?_encode (label : String) (bytes : List UInt8) :
    decode? label (encode label bytes) = some bytes := by
  have unbroken : '\n' ∉ Base64.encode bytes := fun member =>
    (Base64.ne_of_mem_encode member).2 rfl
  have undashed : ∀ c ∈ inLines (Base64.encode bytes), (decide (c ≠ '-')) = true := by
    intro c member
    by_cases ending : c = '\n'
    · rw [ending]
      decide
    · simpa using (Base64.ne_of_mem_encode (mem_of_mem_inLines member ending)).1
  have written : (encode label bytes).toList =
      (opening label ++ ['\n']) ++
        (inLines (Base64.encode bytes) ++ (closing label ++ ['\n'])) := by
    simp [encode, encodeChars]
  have data : (inLines (Base64.encode bytes) ++ (closing label ++ ['\n'])).takeWhile (· ≠ '-') =
      inLines (Base64.encode bytes) := by
    have dashed : closing label = '-' :: "----END ".toList ++ label.toList ++ "-----".toList := rfl
    rw [List.takeWhile_append_of_pos undashed, dashed]
    simp
  rw [decode?, written, after?_append]
  simp only [bind, Option.bind, data, List.drop_left, if_true, filter_inLines unbroken]
  exact Base64.decode?_encode bytes

end Pem

end MailProvision
