import MailProvision.Certificate.Basic
import MailProvision.Proofs.Certificate.Calendar
import MailProvision.Proofs.Certificate.Tagged
import MailProvision.Proofs.Numeral.Decimal

/-!
# Reading moments back

The digits of a date tell the date, and the date tells the moment, wherever the digits can tell the
year: two digits from 1950 to 2049, four digits from 0 to 9999.
-/

namespace MailProvision

namespace CalendarTime

/-! ## Digits -/

theorem isDigit_of_mem_padded {width n : Nat} {c : Char} (member : c ∈ padded width n) :
    c.isDigit = true := by
  rcases List.mem_append.mp member with front | digit
  · rw [List.eq_of_mem_replicate front]
    rfl
  · exact Numeral.isDigit_toDigits n c digit

theorem padded_one {n : Nat} (bound : n < 10) : padded 1 n = [n.digitChar] := by
  simp only [padded, Nat.toDigits_of_lt_base bound]
  rfl

/-- The last digit apart. -/
theorem padded_succ {width : Nat} (positive : 0 < width) (n : Nat) :
    padded (width + 1) n = padded width (n / 10) ++ [(n % 10).digitChar] := by
  by_cases small : n < 10
  · have front : n / 10 = 0 := Nat.div_eq_of_lt small
    have last : n % 10 = n := Nat.mod_eq_of_lt small
    obtain ⟨shorter, rfl⟩ : ∃ shorter, width = shorter + 1 := ⟨width - 1, by omega⟩
    have zeros : List.replicate shorter '0' ++ ['0'] = List.replicate (shorter + 1) '0' :=
      List.replicate_succ'.symm
    simp only [padded, front, last, Nat.toDigits_of_lt_base small,
      Nat.toDigits_of_lt_base (by decide : 0 < 10), List.length_singleton, Nat.add_sub_cancel,
      ← zeros]
    rfl
  · have digits : Nat.toDigits 10 n = Nat.toDigits 10 (n / 10) ++ [(n % 10).digitChar] := by
      rw [Nat.toDigits_eq_if (by decide), if_neg small]
    simp only [padded, digits, List.length_append, List.length_singleton, Nat.add_sub_add_right,
      List.append_assoc]

theorem padded_two {n : Nat} (bound : n < 100) :
    padded 2 n = [(n / 10).digitChar, (n % 10).digitChar] := by
  rw [padded_succ (by decide), padded_one (by omega)]
  rfl

theorem padded_four {n : Nat} (bound : n < 10000) :
    padded 4 n = [(n / 100 / 10).digitChar, (n / 100 % 10).digitChar, (n % 100 / 10).digitChar,
      (n % 100 % 10).digitChar] := by
  have front : n / 10 / 10 = n / 100 := Nat.div_div_eq_div_mul n 10 10
  have third : n / 10 % 10 = n % 100 / 10 := by omega
  have last : n % 10 = n % 100 % 10 := by omega
  rw [padded_succ (by decide), padded_succ (by decide), front, padded_two (by omega), third, last]
  rfl

end CalendarTime

theorem Numeral.digit?_digitChar : ∀ n < 10, digit? n.digitChar = some n := by
  decide

namespace CertificateTime

open CalendarTime

theorem pair?_digits {n : Nat} (bound : n < 100) :
    pair? (n / 10).digitChar (n % 10).digitChar = some n := by
  have whole : n / 10 * 10 + n % 10 = n := by omega
  simp only [pair?, Numeral.digit?_digitChar _ (by omega : n / 10 < 10),
    Numeral.digit?_digitChar _ (by omega : n % 10 < 10), bind, Option.bind, whole]

theorem chars_bytesOfChars {chars : List Char} (small : ∀ c ∈ chars, c.toNat < 256) :
    (bytesOfChars chars).map (fun byte => Char.ofNat byte.toNat) = chars := by
  rw [bytesOfChars, List.map_map]
  refine (List.map_congr_left ?_).trans (List.map_id _)
  intro c member
  have value : (UInt8.ofNat c.toNat).toNat = c.toNat := by
    rw [UInt8.toNat_ofNat']
    exact Nat.mod_eq_of_lt (small c member)
  simp only [Function.comp_apply, value, Char.ofNat_toNat, id]

theorem lt_of_mem_padded {width n : Nat} {c : Char} (member : c ∈ padded width n) :
    c.toNat < 256 := by
  have bound := (Numeral.isDigit_iff.1 (isDigit_of_mem_padded member)).2
  omega

theorem lt_of_mem_charsFromMonth {time : CalendarTime} {c : Char}
    (member : c ∈ charsFromMonth time) : c.toNat < 256 := by
  rcases List.mem_append.mp member with digits | ending
  · rcases List.mem_flatMap.mp digits with ⟨_, _, digit⟩
    exact lt_of_mem_padded digit
  · rw [List.mem_singleton.mp ending]
    decide

theorem ofChars?_charsFromMonth {time : CalendarTime} (date : time.IsDate) (form : TimeForm)
    {year : Nat} (same : time.year = year) :
    ofChars? form year (charsFromMonth time) = some { form, seconds := time.toSeconds } := by
  rcases date with ⟨⟨_, month⟩, ⟨_, day⟩, hour, minute, second⟩
  have days := daysInMonth_le time.year time.month
  have month : time.month < 100 := by omega
  have day : time.day < 100 := by omega
  have hour : time.hour < 100 := by omega
  have minute : time.minute < 100 := by omega
  have second : time.second < 100 := by omega
  simp only [charsFromMonth, List.flatMap_cons, List.flatMap_nil, padded_two month, padded_two day,
    padded_two hour, padded_two minute, padded_two second, List.cons_append, List.nil_append,
    ofChars?, pair?_digits month, pair?_digits day, pair?_digits hour, pair?_digits minute,
    pair?_digits second, bind, Option.bind, ← same]

theorem chars_digits (width n : Nat) (time : CalendarTime) :
    (bytesOfChars (padded width n ++ charsFromMonth time)).map
        (fun byte => Char.ofNat byte.toNat) =
      padded width n ++ charsFromMonth time := by
  apply chars_bytesOfChars
  intro c member
  rcases List.mem_append.mp member with digit | later
  · exact lt_of_mem_padded digit
  · exact lt_of_mem_charsFromMonth later

theorem ofDer?_of_chars_utc {content : List UInt8} {y₁ y₂ : Char} {rest : List Char}
    (chars : content.map (fun byte => Char.ofNat byte.toNat) = y₁ :: y₂ :: rest) :
    ofDer? (.primitive 0x17 content) = (do
      let year ← pair? y₁ y₂
      ofChars? .utc (if year < 50 then 2000 + year else 1900 + year) rest) := by
  simp only [ofDer?, chars]

theorem ofDer?_of_chars_generalized {content : List UInt8} {y₁ y₂ y₃ y₄ : Char}
    {rest : List Char}
    (chars : content.map (fun byte => Char.ofNat byte.toNat) = y₁ :: y₂ :: y₃ :: y₄ :: rest) :
    ofDer? (.primitive 0x18 content) = (do
      ofChars? .generalized ((← pair? y₁ y₂) * 100 + (← pair? y₃ y₄)) rest) := by
  simp only [ofDer?, chars]

/-- The century that two digits leave out follows from the years that they can stand for. -/
theorem ofDer?_utc {seconds : Int} (first : 1950 ≤ (CalendarTime.ofSeconds seconds).year)
    (last : (CalendarTime.ofSeconds seconds).year ≤ 2049) :
    ofDer? (toDer { form := .utc, seconds }) = some { form := .utc, seconds } := by
  have back := toSeconds_ofSeconds seconds
  have date := isDate_ofSeconds seconds
  simp only [toDer]
  generalize CalendarTime.ofSeconds seconds = civil at *
  have bound : (civil.year % 100).toNat < 100 := by omega
  have year : civil.year = ((if (civil.year % 100).toNat < 50 then 2000 + (civil.year % 100).toNat
      else 1900 + (civil.year % 100).toNat : Nat) : Int) := by
    split <;> omega
  have chars := chars_digits 2 (civil.year % 100).toNat civil
  simp only [padded_two bound, List.cons_append, List.nil_append] at chars ⊢
  rw [ofDer?_of_chars_utc chars, pair?_digits bound, Option.bind_eq_bind, Option.bind_some,
    ofChars?_charsFromMonth date .utc year, back]

theorem ofDer?_generalized {seconds : Int} (first : 0 ≤ (CalendarTime.ofSeconds seconds).year)
    (last : (CalendarTime.ofSeconds seconds).year ≤ 9999) :
    ofDer? (toDer { form := .generalized, seconds }) = some { form := .generalized, seconds } := by
  have back := toSeconds_ofSeconds seconds
  have date := isDate_ofSeconds seconds
  simp only [toDer]
  generalize CalendarTime.ofSeconds seconds = civil at *
  have bound : civil.year.toNat < 10000 := by omega
  have front : civil.year.toNat / 100 < 100 := by omega
  have rest : civil.year.toNat % 100 < 100 := by omega
  have year : civil.year = (civil.year.toNat / 100 * 100 + civil.year.toNat % 100 : Nat) := by omega
  have chars := chars_digits 4 civil.year.toNat civil
  simp only [padded_four bound, List.cons_append, List.nil_append] at chars ⊢
  rw [ofDer?_of_chars_generalized chars, pair?_digits front, pair?_digits rest,
    Option.bind_eq_bind, Option.bind_some, Option.bind_some,
    ofChars?_charsFromMonth date .generalized year, back]

theorem form_ofSeconds (seconds : Int) :
    (ofSeconds seconds).form = .utc ↔
      1950 ≤ (CalendarTime.ofSeconds seconds).year ∧
        (CalendarTime.ofSeconds seconds).year ≤ 2049 := by
  by_cases short : 1950 ≤ (CalendarTime.ofSeconds seconds).year ∧
      (CalendarTime.ofSeconds seconds).year ≤ 2049
  · rw [ofSeconds, TimeForm.ofYear, if_pos short]
    exact iff_of_true rfl short
  · rw [ofSeconds, TimeForm.ofYear, if_neg short]
    exact iff_of_false (by rintro ⟨⟩) short

/-- A moment is read back if four digits can tell its year. -/
theorem ofDer?_toDer {seconds : Int} (first : 0 ≤ (CalendarTime.ofSeconds seconds).year)
    (last : (CalendarTime.ofSeconds seconds).year ≤ 9999) :
    ofDer? (ofSeconds seconds).toDer = some (ofSeconds seconds) := by
  by_cases short : 1950 ≤ (CalendarTime.ofSeconds seconds).year ∧
      (CalendarTime.ofSeconds seconds).year ≤ 2049
  · rw [ofSeconds, TimeForm.ofYear, if_pos short]
    exact ofDer?_utc short.1 short.2
  · rw [ofSeconds, TimeForm.ofYear, if_neg short]
    exact ofDer?_generalized first last

theorem wellTagged_toDer (time : CertificateTime) : time.toDer.WellTagged := by
  unfold toDer
  cases time.form with
  | utc => rfl
  | generalized => rfl

theorem length_charsFromMonth {time : CalendarTime} (date : time.IsDate) :
    (charsFromMonth time).length = 11 := by
  rcases date with ⟨⟨_, month⟩, ⟨_, day⟩, hour, minute, second⟩
  have days := daysInMonth_le time.year time.month
  simp only [charsFromMonth, List.flatMap_cons, List.flatMap_nil, List.length_append,
    padded_two (by omega : time.month < 100), padded_two (by omega : time.day < 100),
    padded_two (by omega : time.hour < 100), padded_two (by omega : time.minute < 100),
    padded_two (by omega : time.second < 100), List.length_cons, List.length_nil]

theorem length_encode_toDer_le {seconds : Int}
    (last : (CalendarTime.ofSeconds seconds).year ≤ 9999) (form : TimeForm) :
    (toDer { form, seconds }).encode.length ≤ 32 := by
  have rest := length_charsFromMonth (isDate_ofSeconds seconds)
  have whole := Der.length_encode_le (toDer { form, seconds })
  cases form with
  | utc =>
      simp only [toDer, Der.content, bytesOfChars, List.length_map, List.length_append, rest,
        padded_two (by omega : ((CalendarTime.ofSeconds seconds).year % 100).toNat < 100),
        List.length_cons, List.length_nil] at whole ⊢
      omega
  | generalized =>
      simp only [toDer, Der.content, bytesOfChars, List.length_map, List.length_append, rest,
        padded_four (by omega : (CalendarTime.ofSeconds seconds).year.toNat < 10000),
        List.length_cons, List.length_nil] at whole ⊢
      omega

end CertificateTime

end MailProvision
