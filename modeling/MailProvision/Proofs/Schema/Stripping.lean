import MailProvision.Proofs.Schema.Script

/-!
# What a statement keeps of its text

A statement keeps its text without the white space around it and without what ends it. Semicolons
are dropped in one go: where white space separates the semicolons at the end of a text
(`Statement.EndsTwice`), those before the white space stay. This decides whether a statement is left
unchanged when it is built again from its own text, and whether a script ends it with one semicolon.
No statement of the mail schema ends so.
-/

namespace MailProvision

namespace Script

/-- A statement in a script, up to the empty line after it, ends in exactly one semicolon. -/
def EndsOnce (entry : String) : Prop :=
  ∃ front, entry.toList = front ++ [';', '\n', '\n'] ∧ front.getLast? ≠ some ';'

theorem endsOnce_entry_iff {index : Nat} {statement : Statement} :
    EndsOnce (entry index statement) ↔ statement.text.toList.getLast? ≠ some ';' := by
  obtain ⟨line, commented⟩ : ∃ line, (entry index statement).toList =
      (line ++ '\n' :: statement.text.toList) ++ [';', '\n', '\n'] :=
    ⟨'-' :: '-' :: (comment index statement).toList, by simp [entry_toList]⟩
  have last : (line ++ '\n' :: statement.text.toList).getLast? = some ';' ↔
      statement.text.toList.getLast? = some ';' := by
    cases ends : statement.text.toList.getLast? with
    | none => simp [List.getLast?_eq_none_iff.mp ends]
    | some c => simp [List.getLast?_cons, ends]
  rw [ne_eq, ← last, EndsOnce, commented]
  constructor
  · rintro ⟨front, same, once⟩
    rwa [List.append_cancel_right same]
  · intro once
    exact ⟨_, rfl, once⟩

/-- A script is what is written of each statement with its number, one after the other. -/
theorem render_eq_join (statements : List Statement) :
    render statements =
      String.join (statements.zipIdx.map fun (statement, index) => entry index statement) := by
  have counted (start : Nat) : renderFrom start statements =
      String.join ((statements.zipIdx start).map fun (statement, index) =>
        entry index statement) := by
    induction statements generalizing start with
    | nil => rfl
    | cons statement rest ih =>
        rw [renderFrom, ih, List.zipIdx_cons, List.map_cons, String.join_cons]
  exact counted 0

end Script

namespace Statement

/-- The second text is what is left of the first one without the white space around it and without
semicolons and white space at its end. -/
structure Strips (text stripped : List Char) : Prop where
  whole : ∃ front back, text = front ++ (stripped ++ back) ∧
    front.all Text.isBlank = true ∧ ∀ c ∈ back, Text.isBlank c = true ∨ c = ';'
  starts : ∀ c, stripped.head? = some c → Text.isBlank c = false
  ends : ∀ c, stripped.getLast? = some c → Text.isBlank c = false

/-- White space separates the semicolons at the end of a text. -/
def EndsTwice (text : List Char) : Prop :=
  ∃ front blanks semicolons trail,
    text = front ++ ';' :: (blanks ++ (semicolons ++ trail)) ∧
      blanks ≠ [] ∧ blanks.all Text.isBlank = true ∧
      semicolons ≠ [] ∧ semicolons.all (· = ';') = true ∧ trail.all Text.isBlank = true

/-- The text of a statement is all that is needed of it: it does not end in a semicolon, the same
statement is built from it, and a script ends it with exactly one semicolon. -/
structure IsNormal (statement : Statement) : Prop where
  unended : statement.text.toList.getLast? ≠ some ';'
  rebuilt : ofText statement.repetition statement.label statement.text = statement
  endsOnce : ∀ index, Script.EndsOnce (Script.entry index statement)

/-- A semicolon is left at the end: another statement is built from the text, and a script ends this
one with more than one semicolon. -/
structure IsEnded (statement : Statement) : Prop where
  ended : statement.text.toList.getLast? = some ';'
  rebuilt : ofText statement.repetition statement.label statement.text ≠ statement
  endsOnce : ∀ index, ¬Script.EndsOnce (Script.entry index statement)

/-! ## What is dropped -/

/-- What trimming leaves is what is kept, white space, and the semicolons at the end. -/
theorem exists_stripChars (chars : List Char) :
    ∃ blanks semicolons,
      Text.dropEndWhile (· = ';') (Text.trimChars chars) = stripChars chars ++ blanks ∧
        Text.trimChars chars = stripChars chars ++ (blanks ++ semicolons) ∧
        blanks.all Text.isBlank = true ∧ semicolons.all (· = ';') = true := by
  rcases Text.exists_dropEndWhile (· = ';') (Text.trimChars chars) with ⟨semicolons, whole, same⟩
  rcases Text.exists_dropEndWhile Text.isBlank
    (Text.dropEndWhile (· = ';') (Text.trimChars chars)) with ⟨blanks, body, blank⟩
  rw [← Text.trimEndChars, ← stripChars] at body
  refine ⟨blanks, semicolons, body, ?_, blank, same⟩
  rw [← List.append_assoc, ← body, ← whole]

theorem strips_stripChars (chars : List Char) : Strips chars (stripChars chars) := by
  rcases exists_stripChars chars with ⟨blanks, semicolons, _, trimmed, blank, same⟩
  rcases Text.trims_trimChars chars with ⟨⟨front, back, whole, frontBlank, backBlank⟩, starts, _⟩
  refine { whole := ⟨front, blanks ++ (semicolons ++ back), ?_, frontBlank, ?_⟩
           starts := ?_, ends := ?_ }
  · apply whole.trans
    rw [trimmed]
    simp only [List.append_assoc]
  · intro c member
    simp only [List.mem_append] at member
    rcases member with within | within | within
    · exact .inl (List.all_eq_true.mp blank c within)
    · exact .inr (by simpa using List.all_eq_true.mp same c within)
    · exact .inl (List.all_eq_true.mp backBlank c within)
  · intro first begins
    apply starts
    rw [trimmed, List.head?_append, begins, Option.some_or]
  · intro last ends
    exact Text.getLast?_dropEndWhile ends

/-- A semicolon that is kept stands before white space, and that before semicolons: otherwise it
would have been dropped. -/
theorem endsTwice_of_ended {chars : List Char}
    (ended : (stripChars chars).getLast? = some ';') : EndsTwice chars := by
  rcases exists_stripChars chars with ⟨blanks, semicolons, body, trimmed, blank, same⟩
  rcases Text.trims_trimChars chars with ⟨⟨front, back, whole, _, backBlank⟩, _, ends⟩
  rcases List.getLast?_eq_some_iff.mp ended with ⟨kept, stripped⟩
  have separated : blanks ≠ [] := by
    rintro rfl
    rw [List.append_nil] at body
    have solid := @Text.getLast?_dropEndWhile (· = ';') (Text.trimChars chars) ';'
    rw [body] at solid
    simpa using solid ended
  have closed : semicolons ≠ [] := by
    rintro rfl
    rcases Text.exists_getLast?_of_all separated blank with ⟨last, final, isBlank⟩
    have solid := ends last
    rw [trimmed, List.append_nil, List.getLast?_append, final, Option.some_or] at solid
    rw [solid rfl] at isBlank
    cases isBlank
  refine ⟨front ++ kept, blanks, semicolons, back, ?_, separated, blank, closed, same, backBlank⟩
  rw [whole, trimmed, stripped]
  simp

/-- The white space between the semicolons ends what is dropped, so the one before it is kept. -/
theorem ended_of_endsTwice {chars : List Char} (twice : EndsTwice chars) :
    (stripChars chars).getLast? = some ';' := by
  rcases twice with
    ⟨front, blanks, semicolons, trail, rfl, separated, blank, closed, same, trailBlank⟩
  rcases Text.exists_getLast?_of_all separated blank with ⟨lastBlank, blanksEnd, isBlank⟩
  rcases Text.exists_getLast?_of_all closed same with ⟨last, semicolonsEnd, isSemicolon⟩
  obtain rfl : last = ';' := by simpa using isSemicolon
  obtain ⟨kept, fromStart⟩ : ∃ kept, Text.trimStartChars
      (front ++ ';' :: (blanks ++ (semicolons ++ trail))) =
        kept ++ [';'] ++ blanks ++ semicolons ++ trail := by
    refine ⟨front.dropWhile Text.isBlank, ?_⟩
    rw [Text.trimStartChars, List.dropWhile_append]
    split
    · rename_i nothing
      rw [List.isEmpty_iff.mp nothing]
      simp [Text.isBlank]
    · simp
  have trimmed : Text.trimChars (front ++ ';' :: (blanks ++ (semicolons ++ trail))) =
      kept ++ [';'] ++ blanks ++ semicolons := by
    rw [Text.trimChars, fromStart, Text.trimEndChars, Text.dropEndWhile_append _ trailBlank]
    apply @Text.dropEndWhile_of_last _ _ ';'
    · rw [List.getLast?_append, semicolonsEnd, Option.some_or]
    · decide
  have body : Text.dropEndWhile (· = ';') (kept ++ [';'] ++ blanks ++ semicolons) =
      kept ++ [';'] ++ blanks := by
    rw [Text.dropEndWhile_append _ same]
    apply @Text.dropEndWhile_of_last _ _ lastBlank
    · rw [List.getLast?_append, blanksEnd, Option.some_or]
    · apply decide_eq_false
      rintro rfl
      revert isBlank
      decide
  have stripped : Text.trimEndChars (kept ++ [';'] ++ blanks) = kept ++ [';'] := by
    rw [Text.trimEndChars, Text.dropEndWhile_append _ blank]
    apply @Text.dropEndWhile_of_last _ _ ';'
    · simp
    · decide
  rw [stripChars, trimmed, body, stripped]
  simp

theorem ended_iff {chars : List Char} :
    (stripChars chars).getLast? = some ';' ↔ EndsTwice chars :=
  ⟨endsTwice_of_ended, ended_of_endsTwice⟩

instance (chars : List Char) : Decidable (EndsTwice chars) :=
  decidable_of_iff _ ended_iff

/-! ## Building a statement again -/

theorem stripChars_stripChars_iff {chars : List Char} :
    stripChars (stripChars chars) = stripChars chars ↔ (stripChars chars).getLast? ≠ some ';' := by
  have again : stripChars (stripChars chars) =
      Text.trimEndChars (Text.dropEndWhile (· = ';') (stripChars chars)) := by
    rw [stripChars, trimChars_stripChars]
  constructor
  · intro same ended
    rw [again] at same
    -- Each of the two passes leaves a beginning, so neither has dropped anything.
    have trimmed := Text.dropEndWhile_prefix Text.isBlank
      (Text.dropEndWhile (· = ';') (stripChars chars))
    rw [← Text.trimEndChars, same] at trimmed
    have kept := (Text.dropEndWhile_prefix (· = ';') (stripChars chars)).eq_of_length_le
      trimmed.length_le
    rw [← kept] at ended
    simpa using Text.getLast?_dropEndWhile ended
  · intro unended
    have kept : Text.dropEndWhile (· = ';') (stripChars chars) = stripChars chars := by
      cases ends : (stripChars chars).getLast? with
      | none => rw [List.getLast?_eq_none_iff.mp ends, Text.dropEndWhile_eq_rdropWhile,
          List.rdropWhile_nil]
      | some last =>
          apply Text.dropEndWhile_of_last ends
          apply decide_eq_false
          rintro rfl
          exact unended ends
    rw [again, kept]
    exact Text.dropEndWhile_idem _ _

section OfText

variable (repetition : Repetition) (label : String) {text : String}

theorem toList_ofText (text : String) :
    (ofText repetition label text).text.toList = stripChars text.toList :=
  String.toList_ofList

theorem rebuilt_iff :
    ofText repetition label (ofText repetition label text).text = ofText repetition label text ↔
      (ofText repetition label text).text.toList.getLast? ≠ some ';' := by
  rw [toList_ofText, ← stripChars_stripChars_iff]
  simp [ofText, String.ofList_inj]

theorem isNormal_of_unended
    (unended : (ofText repetition label text).text.toList.getLast? ≠ some ';') :
    (ofText repetition label text).IsNormal where
  unended := unended
  rebuilt := (rebuilt_iff repetition label).2 unended
  endsOnce := fun _ => Script.endsOnce_entry_iff.2 unended

theorem isEnded_of_ended (ended : (ofText repetition label text).text.toList.getLast? = some ';') :
    (ofText repetition label text).IsEnded where
  ended := ended
  rebuilt := fun same => (rebuilt_iff repetition label).1 same ended
  endsOnce := fun _ once => Script.endsOnce_entry_iff.1 once ended

/-- A text that is kept as it is does not end in a semicolon. -/
theorem isNormal_of_kept (kept : (ofText repetition label text).text = text) :
    (ofText repetition label text).IsNormal := by
  apply isNormal_of_unended
  apply (rebuilt_iff repetition label).1
  rw [kept]

end OfText

theorem isNormal_of_mem {options : Schema.Options} {statement : Statement}
    (member : statement ∈ Schema.statements options) : statement.IsNormal := by
  cases Schema.ofMail_of_mem member with
  | create plain scanned solid kept => exact isNormal_of_kept _ _ kept
  | seed domain => exact isNormal_of_kept _ _ (Schema.text_seed _ domain)

/-- A statement keeps its text without the white space around it and the semicolons at its end,
unless white space separates these; then one is left. A script is made of what is written of each
statement, and in the script of the mail schema each ends in exactly one semicolon. -/
theorem text_is_normal_unless_ended_twice (repetition : Repetition) (label text : String) :
    Strips text.toList (ofText repetition label text).text.toList ∧
      (¬EndsTwice text.toList → (ofText repetition label text).IsNormal) ∧
      (EndsTwice text.toList → (ofText repetition label text).IsEnded) ∧
      (∀ statements : List Statement, Script.render statements =
        String.join (statements.zipIdx.map fun (statement, index) =>
          Script.entry index statement)) ∧
      ∀ (options : Schema.Options), ∀ statement ∈ Schema.statements options,
        statement.IsNormal := by
  refine ⟨?_, ?_, ?_, Script.render_eq_join, fun _ _ => isNormal_of_mem⟩
  · rw [toList_ofText]
    exact strips_stripChars text.toList
  · intro once
    apply isNormal_of_unended
    rw [toList_ofText]
    exact mt ended_iff.1 once
  · intro twice
    apply isEnded_of_ended
    rw [toList_ofText]
    exact ended_iff.2 twice

theorem text_is_normal_unless_ended_twice_drop :
    ¬EndsTwice " DROP TABLE t ;; \n".toList ∧
      (idempotent "drop" " DROP TABLE t ;; \n").IsNormal ∧
      EndsTwice "DROP TABLE t;; ;".toList ∧ (append "drop" "DROP TABLE t;; ;").IsEnded ∧
      ∀ statement ∈ Schema.statements {}, statement.IsNormal := by
  have once : ¬EndsTwice " DROP TABLE t ;; \n".toList := by decide +kernel
  have twice : EndsTwice "DROP TABLE t;; ;".toList := by decide +kernel
  rcases text_is_normal_unless_ended_twice .idempotent "drop" " DROP TABLE t ;; \n" with
    ⟨_, normal, _, _, mail⟩
  rcases text_is_normal_unless_ended_twice .append "drop" "DROP TABLE t;; ;" with ⟨_, _, ended, _⟩
  exact ⟨once, normal once, twice, ended twice, mail {}⟩

/-- A semicolon before white space and another semicolon is kept, and goes when the statement is
built again. -/
theorem semicolon_before_white_space_stays :
    let statement := idempotent "drop" "DROP TABLE t; ;"
    statement.text = "DROP TABLE t;" ∧ idempotent "drop" statement.text ≠ statement ∧
      Script.render [statement] = "-- #0 drop\nDROP TABLE t;;\n\n" := by
  decide +kernel

end Statement

end MailProvision
