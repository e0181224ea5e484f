import Mathlib.Data.List.DropRight
import MailProvision.Text.Blank

/-!
# What trimming and splitting leave

A text without the white space around it is told by what it is (`Text.Trims`), apart from how it is
found. Dropping the end of a list and splitting a list are the library's `List.rdropWhile` and
`List.splitOn`.
-/

namespace MailProvision

namespace Text

/-! ## Dropping the end of a list -/

theorem dropEndWhile_eq_rdropWhile (test : Char → Bool) (chars : List Char) :
    dropEndWhile test chars = chars.rdropWhile test :=
  rfl

theorem dropEndWhile_prefix (test : Char → Bool) (chars : List Char) :
    dropEndWhile test chars <+: chars :=
  chars.rdropWhile_prefix test

theorem dropEndWhile_idem (test : Char → Bool) (chars : List Char) :
    dropEndWhile test (dropEndWhile test chars) = dropEndWhile test chars :=
  chars.rdropWhile_idempotent test

theorem dropEndWhile_of_last {test : Char → Bool} {chars : List Char} {last : Char}
    (ends : chars.getLast? = some last) (stays : test last = false) :
    dropEndWhile test chars = chars := by
  rcases List.eq_nil_or_concat chars with rfl | ⟨front, final, rfl⟩
  · cases ends
  · rw [List.concat_eq_append] at ends ⊢
    obtain rfl : final = last := by simpa using ends
    simp [dropEndWhile, stays]

/-- What ends in characters to drop is left without them. -/
theorem dropEndWhile_append {test : Char → Bool} (front : List Char) {back : List Char}
    (dropped : back.all test = true) :
    dropEndWhile test (front ++ back) = dropEndWhile test front := by
  rw [dropEndWhile, List.reverse_append, List.dropWhile_append_of_pos, ← dropEndWhile]
  intro c member
  exact List.all_eq_true.mp dropped c (List.mem_reverse.mp member)

theorem exists_dropEndWhile (test : Char → Bool) (chars : List Char) :
    ∃ back, chars = dropEndWhile test chars ++ back ∧ back.all test = true := by
  refine ⟨chars.rtakeWhile test, List.rdropWhile_append_rtakeWhile.symm, ?_⟩
  rw [List.all_eq_true]
  intro c member
  exact List.mem_rtakeWhile_imp member

theorem getLast?_dropEndWhile {test : Char → Bool} {chars : List Char} {last : Char}
    (ends : (dropEndWhile test chars).getLast? = some last) : test last = false := by
  rw [dropEndWhile, List.getLast?_reverse] at ends
  have solid := List.head?_dropWhile_not test chars.reverse
  rw [ends] at solid
  simpa using solid

theorem exists_getLast?_of_all {test : Char → Bool} {chars : List Char} (solid : chars ≠ [])
    (each : chars.all test = true) : ∃ last, chars.getLast? = some last ∧ test last = true := by
  refine ⟨chars.getLast solid, List.getLast?_eq_some_getLast solid, ?_⟩
  exact List.all_eq_true.mp each _ (List.getLast_mem solid)

/-- If a single character is dropped, the length of the list tells how often. -/
theorem eq_of_dropEndWhile_eq {c : Char} {first second : List Char}
    (lengths : first.length = second.length)
    (same : dropEndWhile (· = c) first = dropEndWhile (· = c) second) : first = second := by
  have whole (chars : List Char) : ∃ count,
      chars = dropEndWhile (· = c) chars ++ List.replicate count c := by
    rcases exists_dropEndWhile (· = c) chars with ⟨back, parts, dropped⟩
    have each : back = List.replicate back.length c :=
      List.eq_replicate_iff.mpr ⟨rfl, fun d member => by
        simpa using List.all_eq_true.mp dropped d member⟩
    exact ⟨back.length, each ▸ parts⟩
  rcases whole first with ⟨count, firstParts⟩
  rcases whole second with ⟨otherCount, secondParts⟩
  rw [← same] at secondParts
  have counts : count = otherCount := by
    have firstLength := congrArg List.length firstParts
    have secondLength := congrArg List.length secondParts
    rw [List.length_append, List.length_replicate] at firstLength secondLength
    omega
  rw [firstParts, secondParts, counts]

/-! ## Trimming -/

/-- The second text is what is left of the first one without the white space around it. -/
structure Trims (text trimmed : List Char) : Prop where
  whole : ∃ front back, text = front ++ (trimmed ++ back) ∧
    front.all isBlank = true ∧ back.all isBlank = true
  starts : ∀ c, trimmed.head? = some c → isBlank c = false
  ends : ∀ c, trimmed.getLast? = some c → isBlank c = false

theorem trimStartChars_of_first {chars : List Char} {first : Char}
    (starts : chars.head? = some first) (stays : isBlank first = false) :
    trimStartChars chars = chars := by
  rcases chars with _ | ⟨c, rest⟩
  · cases starts
  · obtain rfl : c = first := by simpa using starts
    simp [trimStartChars, stays]

/-- What is left at the front of a text without white space there has none either. -/
theorem trimStartChars_of_prefix {front chars : List Char}
    (begins : front <+: trimStartChars chars) : trimStartChars front = front := by
  rcases front with _ | ⟨c, rest⟩
  · rfl
  · rcases begins with ⟨later, whole⟩
    have solid := List.head?_dropWhile_not isBlank chars
    rw [← trimStartChars, ← whole, List.cons_append, List.head?_cons] at solid
    exact trimStartChars_of_first List.head?_cons (by simpa using solid)

theorem trimChars_newline (chars : List Char) : trimChars ('\n' :: chars) = trimChars chars :=
  rfl

theorem exists_front_trimStart (chars : List Char) :
    ∃ front, chars = front ++ trimStartChars chars ∧ front.all isBlank = true := by
  refine ⟨chars.takeWhile isBlank, (List.takeWhile_append_dropWhile).symm, ?_⟩
  exact List.all_takeWhile

theorem head?_trimStart {chars : List Char} {first : Char}
    (starts : (trimStartChars chars).head? = some first) : isBlank first = false := by
  have solid := List.head?_dropWhile_not isBlank chars
  rw [← trimStartChars, starts] at solid
  simpa using solid

theorem trims_trimChars (chars : List Char) : Trims chars (trimChars chars) := by
  rcases exists_front_trimStart chars with ⟨front, fromStart, frontBlank⟩
  rcases exists_dropEndWhile isBlank (trimStartChars chars) with ⟨back, toEnd, backBlank⟩
  rw [← trimEndChars, ← trimChars] at toEnd
  refine { whole := ⟨front, back, ?_, frontBlank, backBlank⟩, starts := ?_, ends := ?_ }
  · rw [← toEnd, ← fromStart]
  · intro first starts
    apply @head?_trimStart chars
    rw [toEnd, List.head?_append, starts, Option.some_or]
  · intro last ends
    exact getLast?_dropEndWhile ends

/-- Nothing is left of a text if and only if it is white space. -/
theorem trimChars_eq_nil_iff {chars : List Char} :
    trimChars chars = [] ↔ chars.all isBlank = true := by
  rcases (trims_trimChars chars) with ⟨⟨front, back, whole, frontBlank, backBlank⟩, starts, _⟩
  constructor
  · intro nothing
    rw [whole, nothing, List.nil_append, List.all_append, frontBlank, backBlank]
    rfl
  · intro blank
    cases trimmed : trimChars chars with
    | nil => rfl
    | cons c rest =>
        rw [trimmed] at whole starts
        have solid := starts c rfl
        have member : c ∈ chars := by
          rw [whole]
          simp
        rw [List.all_eq_true.mp blank c member] at solid
        cases solid

/-- Something is left of a text if and only if it holds a character that is not white space. -/
theorem trimChars_ne_nil_iff {chars : List Char} :
    trimChars chars ≠ [] ↔ ∃ c ∈ chars, isBlank c = false := by
  rw [ne_eq, trimChars_eq_nil_iff, List.all_eq_true]
  simp

/-- What has no white space at either end is left as it is. -/
theorem trimChars_of_ends {chars : List Char}
    (starts : ∀ c, chars.head? = some c → isBlank c = false)
    (ends : ∀ c, chars.getLast? = some c → isBlank c = false) : trimChars chars = chars := by
  cases chars with
  | nil => rfl
  | cons first rest =>
      rw [trimChars, trimStartChars_of_first List.head?_cons (starts first List.head?_cons)]
      have final := List.getLast?_eq_some_getLast (List.cons_ne_nil first rest)
      exact dropEndWhile_of_last final (ends _ final)

/-! ## Splitting -/

/-- The parts of a list are those that the library finds. -/
theorem splitChars_eq_splitOn (separator : Char) (chars : List Char) :
    splitChars separator chars = chars.splitOn separator := by
  induction chars with
  | nil => rfl
  | cons c rest ih =>
      rw [splitChars, List.splitOn_cons_eq_if_modifyHead, ← ih]
      by_cases separates : c = separator
      · simp [separates]
      · rw [if_neg separates, if_neg (by simpa using separates)]
        cases parts : splitChars separator rest with
        | nil => exact absurd parts (splitChars_ne_nil separator rest)
        | cons part later => rfl

/-- No part holds the separator. -/
theorem not_mem_of_mem_splitChars {separator : Char} {chars part : List Char}
    (member : part ∈ splitChars separator chars) : separator ∉ part := by
  induction chars generalizing part with
  | nil =>
      rw [List.mem_singleton.mp member]
      exact List.not_mem_nil
  | cons c rest ih =>
      rw [splitChars] at member
      by_cases separates : c = separator
      · rw [if_pos separates] at member
        rcases List.mem_cons.mp member with rfl | later
        · exact List.not_mem_nil
        · exact ih later
      · rw [if_neg separates] at member
        cases parts : splitChars separator rest with
        | nil => exact absurd parts (splitChars_ne_nil separator rest)
        | cons front others =>
            simp only [parts] at ih member
            rcases List.mem_cons.mp member with rfl | later
            · rw [List.mem_cons, not_or]
              exact ⟨Ne.symm separates, ih List.mem_cons_self⟩
            · exact ih (List.mem_cons_of_mem front later)

end Text

end MailProvision
