import MailProvision.Text.Quoted

/-!
# Unambiguous codes

A way of writing is unambiguous if any text that begins with a written value tells which value that
is, and where it ends. Such codes are put together from smaller ones. Numbers followed by a character
that is no digit are one, and so is quoted text: the quote at its end cannot be taken for a character
of the text.
-/

namespace MailProvision

/-- A text that begins with a written value tells the value and what follows it. -/
def Unambiguous {Value : Type} (write : Value → List Char) : Prop :=
  ∀ ⦃first second rest other⦄,
    write first ++ rest = write second ++ other → first = second ∧ rest = other

namespace Unambiguous

variable {Value Other : Type} {write : Value → List Char} {writeOther : Other → List Char}

theorem injective (code : Unambiguous write) {first second : Value}
    (same : write first = write second) : first = second :=
  (code (congrArg (· ++ []) same)).1

/-- Texts of which none begins with another. -/
theorem of_prefixFree (free : ∀ first second, write first <+: write second → first = second) :
    Unambiguous write := by
  intro first second rest other same
  have values : first = second := by
    rcases List.append_eq_append_iff.mp same with ⟨between, longer, _⟩ | ⟨between, longer, _⟩
    · exact free first second ⟨between, longer.symm⟩
    · exact (free second first ⟨between, longer.symm⟩).symm
  rw [values, List.append_cancel_left_eq] at same
  exact ⟨values, same⟩

theorem enclose (code : Unambiguous write) (front back : List Char) :
    Unambiguous fun value => front ++ (write value ++ back) := by
  intro first second rest other same
  simp only [List.append_assoc, List.append_cancel_left_eq] at same
  rcases code same with ⟨values, rests⟩
  exact ⟨values, List.append_cancel_left rests⟩

theorem pair (code : Unambiguous write) (codeOther : Unambiguous writeOther) :
    Unambiguous fun pair : Value × Other => write pair.1 ++ writeOther pair.2 := by
  rintro ⟨first, firstOther⟩ ⟨second, secondOther⟩ rest other same
  simp only [List.append_assoc] at same
  rcases code same with ⟨rfl, others⟩
  rcases codeOther others with ⟨rfl, rests⟩
  exact ⟨rfl, rests⟩

theorem comp (code : Unambiguous write) {convert : Other → Value}
    (injective : Function.Injective convert) : Unambiguous fun value => write (convert value) := by
  intro first second rest other same
  rcases code same with ⟨values, rests⟩
  exact ⟨injective values, rests⟩

/-- A value or another text in its place. -/
theorem option (code : Unambiguous write) {absent : List Char}
    (apart : ∀ value rest other, write value ++ rest ≠ absent ++ other) :
    Unambiguous fun value : Option Value => value.elim absent write := by
  intro first second rest other same
  cases first with
  | none =>
      cases second with
      | none => exact ⟨rfl, List.append_cancel_left same⟩
      | some value => exact absurd same.symm (apart value other rest)
  | some value =>
      cases second with
      | none => exact absurd same (apart value rest other)
      | some third =>
          rcases code same with ⟨rfl, rests⟩
          exact ⟨rfl, rests⟩

/-- Values in a row, up to a text with which none of them begins. -/
theorem sequence (code : Unambiguous write) {stop : List Char}
    (apart : ∀ value rest other, write value ++ rest ≠ stop ++ other) :
    Unambiguous fun values : List Value => values.flatMap write ++ stop := by
  intro first
  induction first with
  | nil =>
      intro second rest other same
      cases second with
      | nil => exact ⟨rfl, List.append_cancel_left same⟩
      | cons value values =>
          simp only [List.flatMap_nil, List.nil_append, List.flatMap_cons,
            List.append_assoc] at same
          exact absurd same.symm (apart _ _ _)
  | cons value values ih =>
      intro second rest other same
      cases second with
      | nil =>
          simp only [List.flatMap_nil, List.nil_append, List.flatMap_cons,
            List.append_assoc] at same
          exact absurd same (apart _ _ _)
      | cons third thirds =>
          simp only [List.flatMap_cons, List.append_assoc] at same
          rcases code same with ⟨rfl, later⟩
          simp only [← List.append_assoc] at later
          rcases ih later with ⟨rfl, rests⟩
          exact ⟨rfl, rests⟩

/-- A list that is written in one way if it is empty, and by its first value and the rest otherwise. -/
theorem listCases {writeList writeRest : List Value → List Char} (first : Unambiguous write)
    (later : Unambiguous writeRest) {absent : List Char} (nil : writeList [] = absent)
    (cons : ∀ value values, writeList (value :: values) = write value ++ writeRest values)
    (apart : ∀ value rest other, write value ++ rest ≠ absent ++ other) :
    Unambiguous writeList := by
  have empty {value : Value} {values : List Value} {rest other : List Char} :
      writeList (value :: values) ++ rest ≠ writeList [] ++ other := by
    rw [cons, nil, List.append_assoc]
    exact apart _ _ _
  intro values others rest other same
  cases values with
  | nil =>
      cases others with
      | nil => exact ⟨rfl, List.append_cancel_left same⟩
      | cons value others => exact absurd same.symm empty
  | cons value values =>
      cases others with
      | nil => exact absurd same empty
      | cons third others =>
          rw [cons, cons, List.append_assoc, List.append_assoc] at same
          rcases first same with ⟨rfl, after⟩
          rcases later after with ⟨rfl, rests⟩
          exact ⟨rfl, rests⟩

/-- Texts that are ended by a character which none of them holds. -/
theorem delimited (injective : Function.Injective write) {stop : Char}
    (absent : ∀ value, stop ∉ write value) : Unambiguous fun value => write value ++ [stop] := by
  have shorter {first second : Value} {between rest other : List Char}
      (longer : write second = write first ++ between)
      (after : stop :: rest = between ++ stop :: other) : first = second ∧ rest = other := by
    cases between with
    | nil =>
        rw [List.append_nil] at longer
        rw [List.nil_append, List.cons.injEq] at after
        exact ⟨injective longer.symm, after.2⟩
    | cons c between =>
        rw [List.cons_append, List.cons.injEq] at after
        exact absurd (by simp [longer, ← after.1]) (absent second)
  intro first second rest other same
  simp only [List.append_assoc, List.singleton_append] at same
  rcases List.append_eq_append_iff.mp same with ⟨between, longer, after⟩ | ⟨between, longer, after⟩
  · exact shorter longer after
  · rcases shorter longer after with ⟨values, rests⟩
    exact ⟨values.symm, rests.symm⟩

end Unambiguous

/-- Where the first character that fails a test stands tells what is before it. -/
theorem append_inj_of_test {test : Char → Bool} {front other back rest : List Char}
    (fronts : ∀ c ∈ front, test c = true) (others : ∀ c ∈ other, test c = true)
    (stops : ∀ c, back.head? = some c → test c = false)
    (otherStops : ∀ c, rest.head? = some c → test c = false)
    (same : front ++ back = other ++ rest) : front = other ∧ back = rest := by
  have taken {front back : List Char} (fronts : ∀ c ∈ front, test c = true)
      (stops : ∀ c, back.head? = some c → test c = false) :
      (front ++ back).takeWhile test = front := by
    rw [List.takeWhile_append_of_pos fronts]
    cases back with
    | nil => simp
    | cons c later => simp [stops c rfl]
  have before := congrArg (List.takeWhile test) same
  rw [taken fronts stops, taken others otherStops] at before
  rw [before, List.append_cancel_left_eq] at same
  exact ⟨before, same⟩

/-! ## Numbers -/

theorem digitChar_injective : ∀ n < 16, ∀ m < 16, Nat.digitChar n = Nat.digitChar m → n = m := by
  decide +kernel

/-- The digits of a number from the base on are those of its quotient and one more. -/
theorem toDigits_of_le {base n : Nat} (proper : 1 < base) (many : ¬n < base) :
    Nat.toDigits base n = Nat.toDigits base (n / base) ++ [Nat.digitChar (n % base)] :=
  Nat.toDigits_of_base_le proper (Nat.le_of_not_lt many)

theorem exists_digitChar_of_mem {base n : Nat} (proper : 1 < base) {c : Char}
    (member : c ∈ Nat.toDigits base n) : ∃ digit, c = Nat.digitChar digit := by
  induction n using Nat.strongRecOn with
  | ind n ih =>
      by_cases single : n < base
      · rw [Nat.toDigits_of_lt_base single, List.mem_singleton] at member
        exact ⟨n, member⟩
      · rw [toDigits_of_le proper single, List.mem_append, List.mem_singleton] at member
        rcases member with before | final
        · exact ih (n / base) (Nat.div_lt_self (by omega) proper) before
        · exact ⟨_, final⟩

theorem toDigits_injective {base : Nat} (proper : 1 < base) (small : base ≤ 16) :
    Function.Injective (Nat.toDigits base) := by
  have last (k : Nat) : k % base < 16 := Nat.lt_of_lt_of_le (Nat.mod_lt k (by omega)) small
  have longer {digits : List Char} {n : Nat} (many : ¬n < base) {digit : Char} :
      [digit] ≠ Nat.toDigits base (n / base) ++ digits ++ [Nat.digitChar (n % base)] := by
    intro same
    have lengths := congrArg List.length same
    have some := List.length_pos_iff.mpr (Nat.toDigits_ne_nil (n := n / base) (b := base))
    simp only [List.length_append, List.length_singleton] at lengths
    omega
  intro n
  induction n using Nat.strongRecOn with
  | ind n ih =>
      intro m same
      by_cases single : n < base
      · by_cases other : m < base
        · rw [Nat.toDigits_of_lt_base single, Nat.toDigits_of_lt_base other,
            List.singleton_inj] at same
          exact digitChar_injective n (by omega) m (by omega) same
        · rw [Nat.toDigits_of_lt_base single, toDigits_of_le proper other,
            ← List.append_nil (Nat.toDigits base (m / base))] at same
          exact absurd same (longer other)
      · by_cases other : m < base
        · rw [Nat.toDigits_of_lt_base other, toDigits_of_le proper single,
            ← List.append_nil (Nat.toDigits base (n / base))] at same
          exact absurd same.symm (longer single)
        · rw [toDigits_of_le proper single, toDigits_of_le proper other] at same
          have quotients := ih (n / base) (Nat.div_lt_self (by omega) proper)
            (List.append_inj_left' same rfl)
          have remainders := digitChar_injective _ (last n) _ (last m)
            (List.singleton_inj.mp (List.append_inj_right' same rfl))
          rw [← Nat.div_add_mod n base, quotients, remainders, Nat.div_add_mod]

/-- A number is told from its digits and a character after them that is none. -/
theorem unambiguous_toDigits {base : Nat} (proper : 1 < base) (small : base ≤ 16) {stop : Char}
    (other : ∀ digit, stop ≠ Nat.digitChar digit) :
    Unambiguous fun n => Nat.toDigits base n ++ [stop] := by
  apply Unambiguous.delimited (toDigits_injective proper small)
  intro n member
  rcases exists_digitChar_of_mem proper member with ⟨digit, same⟩
  exact other digit same

/-! ## Quoted text -/

namespace Quoted

/-- The characters with a letter of their own. -/
def letters : List (Char × Char) :=
  [('\x00', '0'), ('\t', 't'), ('\r', 'r'), ('\n', 'n'), ('\\', '\\'), ('"', '"')]

/-- How a character is written: by a letter, as it is, or by its code point. -/
theorem encodeChar_cases (c : Char) :
    (∃ letter, (c, letter) ∈ letters ∧ encodeChar c = ['\\', letter]) ∨
      c ≠ '\\' ∧ c ≠ '"' ∧ encodeChar c = [c] ∨ encodeChar c = codePoint c := by
  unfold encodeChar
  by_cases zero : c = '\x00'
  · exact .inl ⟨'0', by simp [zero, letters]⟩
  by_cases tab : c = '\t'
  · exact .inl ⟨'t', by simp [tab, letters]⟩
  by_cases carriage : c = '\r'
  · exact .inl ⟨'r', by simp [carriage, letters]⟩
  by_cases feed : c = '\n'
  · exact .inl ⟨'n', by simp [feed, letters]⟩
  by_cases backslash : c = '\\'
  · exact .inl ⟨'\\', by simp [backslash, letters]⟩
  by_cases quote : c = '"'
  · exact .inl ⟨'"', by simp [quote, letters]⟩
  right
  simp only [zero, tab, carriage, feed, backslash, quote, if_false]
  split
  · exact .inl ⟨backslash, quote, rfl⟩
  · exact .inr rfl

theorem letters_injective : ∀ item ∈ letters, ∀ other ∈ letters, item.2 = other.2 → item = other := by
  decide

theorem letter_ne : ∀ item ∈ letters, item.2 ≠ 'u' := by
  decide

theorem unambiguous_codePoint : Unambiguous codePoint := by
  have closing (digit : Nat) : '\x7d' ≠ Nat.digitChar digit := Ne.symm (Nat.digitChar_ne _ rfl)
  have number : Unambiguous fun n => Nat.toDigits 16 n ++ ['\x7d'] :=
    unambiguous_toDigits (by decide) (by decide) closing
  have code := (number.comp fun _ _ => Char.toNat_inj.mp).enclose ['\\', 'u', '\x7b'] []
  intro first second rest other same
  apply code
  simpa [codePoint, hexDigits] using same

theorem unambiguous_encodeChar : Unambiguous encodeChar := by
  intro first second rest other same
  rcases encodeChar_cases first with ⟨letter, member, written⟩ | ⟨solid, _, written⟩ | written <;>
    rcases encodeChar_cases second with
      ⟨letter', member', written'⟩ | ⟨solid', _, written'⟩ | written' <;>
    rw [written, written'] at same
  · simp only [List.cons_append, List.nil_append, List.cons.injEq, true_and] at same
    have items := letters_injective _ member _ member' same.1
    exact ⟨congrArg Prod.fst items, same.2⟩
  · exact absurd (List.cons.inj same).1.symm solid'
  · simp only [codePoint, List.cons_append, List.cons.injEq, true_and] at same
    exact absurd same.1 (letter_ne _ member)
  · exact absurd (List.cons.inj same).1 solid
  · exact ⟨(List.cons.inj same).1, (List.cons.inj same).2⟩
  · exact absurd (List.cons.inj same).1 solid
  · simp only [codePoint, List.cons_append, List.cons.injEq, true_and] at same
    exact absurd same.1.symm (letter_ne _ member')
  · exact absurd (List.cons.inj same).1.symm solid'
  · exact unambiguous_codePoint same

/-- No character is written with a quote in front. -/
theorem encodeChar_ne_quote (c : Char) (rest other : List Char) :
    encodeChar c ++ rest ≠ ['"'] ++ other := by
  intro same
  rcases encodeChar_cases c with ⟨letter, _, written⟩ | ⟨_, solid, written⟩ | written
  · rw [written] at same
    exact absurd (List.cons.inj same).1 (by decide)
  · rw [written] at same
    exact absurd (List.cons.inj same).1 solid
  · rw [written, codePoint] at same
    exact absurd (List.cons.inj same).1 (by decide)

theorem unambiguous_encode : Unambiguous fun text => (encode text).toList := by
  have chars := (unambiguous_encodeChar.sequence encodeChar_ne_quote).enclose ['"'] []
  intro first second rest other same
  apply chars.comp fun _ _ => String.toList_inj.mp
  simpa [encode, encodeChars] using same

end Quoted

end MailProvision
