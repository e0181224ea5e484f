import MailProvision.Error
import MailProvision.Proofs.Duration

/-!
# What error messages tell

A message opens with words of its own, and those about a statement go on with its number and, where
it took too long, with the time that it was allowed (`Lead`). The openings are an unambiguous code
(`unambiguous_toChars`), so no text in the rest of a message, whatever it holds, can be taken for
another opening.
-/

namespace MailProvision

/-- What a message is about if it is not about a statement. -/
inductive Topic where
  | configuration
  | connection
  | subject
  | key
  | signature
  | file

namespace Topic

/-- The words that a message about the topic opens with. -/
def words : Topic → String
  | configuration => "Configuration error: "
  | connection => "Connection to cluster ["
  | subject => "Invalid certificate subject: "
  | key => "Key generation failed: "
  | signature => "Certificate signing failed: "
  | file => "Failed to write "

/-- The code of the errors about the topic. -/
def code : Topic → String
  | configuration => "CONFIG_ERROR"
  | connection => "CONNECTION_ERROR"
  | subject => "INVALID_SUBJECT"
  | key => "KEYGEN_ERROR"
  | signature => "SIGNING_ERROR"
  | file => "PERSISTENCE_ERROR"

theorem unambiguous_words : Unambiguous fun topic : Topic => topic.words.toList := by
  apply Unambiguous.of_prefixFree
  intro first second starts
  cases first <;> cases second <;> first | rfl | simp [words] at starts

/-- No words are those that a message about a statement opens with. -/
theorem words_ne_statement (topic : Topic) (rest other : List Char) :
    topic.words.toList ++ rest ≠ "Statement #".toList ++ other := by
  cases topic <;> simp [words]

end Topic

/-- What a message says before the texts that it is given. -/
inductive Lead where
  | about (topic : Topic)
  /-- A statement was refused, or it did not complete within a limit. -/
  | statement (index : Nat) (limit : Option Duration)

namespace Lead

/-- What is said of a statement after its number. -/
def ending (limit : Option Duration) : List Char :=
  limit.elim "rejected: ".toList fun limit =>
    "timed out after ".toList ++ (limit.toChars ++ ['\n'])

/-- The opening of a message. -/
def toChars : Lead → List Char
  | about topic => topic.words.toList
  | statement index limit =>
      "Statement #".toList ++ (Nat.toDigits 10 index ++ [' '] ++ ending limit)

/-- The code of the errors whose messages open like this. -/
def code : Lead → String
  | about topic => topic.code
  | statement _ none => "STATEMENT_ERROR"
  | statement _ (some _) => "TIMEOUT"

theorem toChars_about (topic : Topic) : (about topic).toChars = topic.words.toList :=
  rfl

theorem toChars_statement (index : Nat) (limit : Option Duration) :
    (statement index limit).toChars =
      "Statement #".toList ++ (Nat.toDigits 10 index ++ [' '] ++ ending limit) :=
  rfl

theorem unambiguous_ending : Unambiguous ending := by
  have late := Duration.unambiguous_toChars.enclose "timed out after ".toList []
  simp only [List.append_nil] at late
  apply late.option
  intro limit rest other same
  simp at same

theorem unambiguous_statement : Unambiguous fun said : Nat × Option Duration =>
    "Statement #".toList ++ (Nat.toDigits 10 said.1 ++ [' '] ++ ending said.2) := by
  have number : Unambiguous fun index => Nat.toDigits 10 index ++ [' '] :=
    unambiguous_toDigits (by decide) (by decide) fun _ => Ne.symm (Nat.digitChar_ne _ rfl)
  have code := (number.pair unambiguous_ending).enclose "Statement #".toList []
  simpa only [List.append_nil] using code

/-- The opening of a message tells what it says, and where the other texts begin. -/
theorem unambiguous_toChars : Unambiguous toChars := by
  intro first second rest other same
  cases first with
  | about topic =>
      rw [toChars_about] at same
      cases second with
      | about otherTopic =>
          rw [toChars_about] at same
          rcases Topic.unambiguous_words same with ⟨topics, rests⟩
          exact ⟨congrArg about topics, rests⟩
      | statement index limit =>
          rw [toChars_statement, List.append_assoc] at same
          exact absurd same (topic.words_ne_statement _ _)
  | statement index limit =>
      rw [toChars_statement] at same
      cases second with
      | about topic =>
          rw [toChars_about, List.append_assoc] at same
          exact absurd same.symm (topic.words_ne_statement _ _)
      | statement otherIndex otherLimit =>
          rw [toChars_statement] at same
          rcases @unambiguous_statement (index, limit) (otherIndex, otherLimit) _ _ same with
            ⟨saying, rests⟩
          cases saying
          exact ⟨rfl, rests⟩

end Lead

namespace Error

/-- What the message of an error opens with. -/
def lead : Error → Lead
  | config _ => .about .configuration
  | provision (.connection _ _) => .about .connection
  | provision (.statement index _ _) => .statement index none
  | provision (.timeout index _ limit) => .statement index (some limit)
  | mint (.invalidSubject _) => .about .subject
  | mint (.keyGeneration _) => .about .key
  | mint (.signing _) => .about .signature
  | mint (.persistence _ _) => .about .file

/-- The rest of the message. -/
def remainder : Error → String
  | config fault => fault.message
  | provision (.connection hosts reason) => hosts ++ "] failed: " ++ reason
  | provision (.statement _ text reason) => reason ++ "\n" ++ text
  | provision (.timeout _ text _) => text
  | mint (.invalidSubject fault) => fault.message
  | mint (.keyGeneration fault) => fault.message
  | mint (.signing text) => text
  | mint (.persistence path cause) => path ++ ": " ++ cause.message

theorem toList_message (error : Error) :
    error.message.toList = error.lead.toChars ++ error.remainder.toList := by
  have about (topic : Topic) (text : String) :
      (topic.words ++ text).toList = (Lead.about topic).toChars ++ text.toList :=
    String.toList_append
  have between (topic : Topic) (first middle second : String) :
      (topic.words ++ first ++ middle ++ second).toList =
        (Lead.about topic).toChars ++ (first ++ middle ++ second).toList := by
    rw [← about, String.append_assoc, String.append_assoc, ← @String.append_assoc first]
  cases error with
  | config fault => exact about .configuration fault.message
  | provision error =>
      cases error with
      | connection hosts reason => exact between .connection hosts "] failed: " reason
      | statement index text reason =>
          -- By `rfl`: with so many literals, the equations of `message` are costly to unfold by.
          have said : (provision (.statement index text reason)).message =
              "Statement #" ++ toString index ++ " rejected: " ++ reason ++ "\n" ++ text := rfl
          have rest : (provision (.statement index text reason)).remainder =
              reason ++ "\n" ++ text := rfl
          have opens : (provision (.statement index text reason)).lead = .statement index none := rfl
          rw [said, rest, opens, Lead.toChars_statement]
          simp [Lead.ending]
      | timeout index text limit =>
          have said : (provision (.timeout index text limit)).message =
              "Statement #" ++ toString index ++ " timed out after " ++ limit.toText ++ "\n" ++
                text := rfl
          have rest : (provision (.timeout index text limit)).remainder = text := rfl
          have opens : (provision (.timeout index text limit)).lead =
              .statement index (some limit) := rfl
          rw [said, rest, opens, Lead.toChars_statement]
          simp [Lead.ending, Duration.toText]
  | mint error =>
      cases error with
      | invalidSubject fault => exact about .subject fault.message
      | keyGeneration fault => exact about .key fault.message
      | signing text => exact about .signature text
      | persistence path cause => exact between .file path ": " cause.message

theorem code_eq (error : Error) : error.code = error.lead.code := by
  rcases error with fault | (_ | _ | _) | (_ | _ | _ | _) <;> rfl

theorem message_eq_iff {first second : Error} : first.message = second.message ↔
    first.lead = second.lead ∧ first.remainder = second.remainder := by
  rw [← String.toList_inj, toList_message, toList_message]
  constructor
  · intro same
    rcases Lead.unambiguous_toChars same with ⟨leads, rests⟩
    exact ⟨leads, String.toList_inj.mp rests⟩
  · rintro ⟨leads, rests⟩
    rw [leads, rests]

/-! ## Which errors open like this -/

theorem eq_connection_of_lead {error : Error} (opens : error.lead = .about .connection) :
    ∃ hosts reason, error = .provision (.connection hosts reason) := by
  rcases error with fault | (⟨hosts, reason⟩ | _ | _) | (_ | _ | _ | _) <;> cases opens
  exact ⟨hosts, reason, rfl⟩

theorem eq_statement_of_lead {error : Error} {index : Nat}
    (opens : error.lead = .statement index none) :
    ∃ text reason, error = .provision (.statement index text reason) := by
  rcases error with fault | (_ | ⟨_, text, reason⟩ | _) | (_ | _ | _ | _) <;> cases opens
  exact ⟨text, reason, rfl⟩

theorem eq_timeout_of_lead {error : Error} {index : Nat} {limit : Duration}
    (opens : error.lead = .statement index (some limit)) :
    error = .provision (.timeout index error.remainder limit) := by
  rcases error with fault | (_ | _ | ⟨_, text, _⟩) | (_ | _ | _ | _) <;> cases opens
  rfl

/-- Whatever texts errors hold, those with the same message have the same code. An error of
provisioning has its message in common with errors of provisioning alone, at the same statement, if
at any, and with the same answer to whether the connection is to blame. A timeout is told by its
message as a whole. -/
theorem message_tells_failure {first second : Error} (same : first.message = second.message) :
    first.code = second.code ∧
      (∀ error, first = .provision error → ∃ other, second = .provision other ∧
        error.statementIndex? = other.statementIndex? ∧
        error.isConnectionFailure = other.isConnectionFailure) ∧
      ∀ index text limit, first = .provision (.timeout index text limit) →
        second = .provision (.timeout index text limit) := by
  rcases message_eq_iff.1 same with ⟨leads, remainders⟩
  refine ⟨by rw [code_eq, code_eq, leads], ?_, ?_⟩
  · rintro error rfl
    cases error with
    | connection hosts reason =>
        rcases eq_connection_of_lead leads.symm with ⟨_, _, rfl⟩
        exact ⟨_, rfl, rfl, rfl⟩
    | statement index text reason =>
        rcases eq_statement_of_lead leads.symm with ⟨_, _, rfl⟩
        exact ⟨_, rfl, rfl, rfl⟩
    | timeout index text limit =>
        exact ⟨_, eq_timeout_of_lead leads.symm, rfl, rfl⟩
  · rintro index text limit rfl
    rw [eq_timeout_of_lead leads.symm, ← remainders]
    rfl

theorem message_tells_failure_wording :
    let first : Error := .provision (.statement 12 "b" "timed out after 1s\na")
    let second : Error := .provision (.statement 12 "a\nb" "timed out after 1s")
    let late : Error := .provision (.timeout 1 "a" (.ofMilliseconds 1500))
    first ≠ second ∧ first.message = second.message ∧ first.code = second.code ∧
      (∃ other, second = .provision other ∧ some 12 = other.statementIndex?) ∧
      ∀ error, late.message = error.message → error = late := by
  intro first second late
  have same : first.message = second.message := by decide +kernel
  rcases message_tells_failure same with ⟨codes, provisions, _⟩
  rcases provisions _ rfl with ⟨other, provision, index, _⟩
  exact ⟨by decide, same, codes, ⟨other, provision, index⟩, fun error same =>
    (message_tells_failure same).2.2 1 "a" (.ofMilliseconds 1500) rfl⟩

end Error

end MailProvision
