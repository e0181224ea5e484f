import MailProvision.Proofs.Schema.Mail
import MailProvision.Schema.Pieces
import MailProvision.Schema.Script

/-!
# Reading a script back

A script is read with its comments: `Script.passages` cuts it where `Script.cut` does and keeps
what the comments of each part say. A text that holds neither semicolons nor dashes outside its
literals is read whole (`Script.scan`), and the body of a literal is read as part of the literal,
whatever it holds.
-/

namespace MailProvision

/-- The text of a statement has no white space at either end. -/
theorem Statement.trimChars_stripChars (chars : List Char) :
    Text.trimChars (stripChars chars) = stripChars chars := by
  have begins : stripChars chars <+: Text.trimStartChars chars := by
    apply (Text.dropEndWhile_prefix _ _).trans
    apply (Text.dropEndWhile_prefix _ _).trans
    exact Text.dropEndWhile_prefix _ _
  rw [Text.trimChars, Text.trimStartChars_of_prefix begins]
  exact Text.dropEndWhile_idem _ _

namespace Script

/-- A part of a script up to a semicolon that ends a statement. -/
structure Passage where
  /-- What is left without comments. -/
  text : List Char := []
  /-- What the comments say after their dashes. -/
  comments : List (List Char) := []
deriving DecidableEq, Repr

/-- A script in passages; there is always at least one. -/
structure Reading where
  first : Passage := {}
  later : List Passage := []
deriving DecidableEq, Repr

namespace Reading

/-- The reading with a text in front of it. -/
def write (text : List Char) (reading : Reading) : Reading :=
  { reading with first := { reading.first with text := text ++ reading.first.text } }

/-- The reading with a comment in front of it. -/
def remark (comment : List Char) (reading : Reading) : Reading :=
  { reading with first := { reading.first with comments := comment :: reading.first.comments } }

/-- The reading with one more character in its first comment. -/
def note (c : Char) (reading : Reading) : Reading :=
  match reading.first.comments with
  | [] => reading.remark [c]
  | comment :: rest =>
      { reading with first := { reading.first with comments := (c :: comment) :: rest } }

/-- The reading with an end of a statement in front of it. -/
def close (reading : Reading) : Reading :=
  { later := reading.first :: reading.later }

def passages (reading : Reading) : List Passage :=
  reading.first :: reading.later

end Reading

/-- Reads a script from a place. -/
def read : Zone → List Char → Reading
  | .comment, [] => ({} : Reading).remark []
  | .statement, [] => {}
  | .literal, [] => {}
  | .comment, c :: rest =>
      if c = '\n' then ((read .statement rest).write ['\n']).remark []
      else (read .comment rest).note c
  | .literal, c :: rest => (read (if c = '\'' then .statement else .literal) rest).write [c]
  | .statement, '-' :: '-' :: rest => read .comment rest
  | .statement, c :: rest =>
      if c = ';' then (read .statement rest).close
      else (read (if c = '\'' then .literal else .statement) rest).write [c]

/-- What a passage says, unless it holds no statement: its comments, and its text without the white
space around it. -/
def Passage.told? (passage : Passage) : Option (List String × String) :=
  let text := Text.trimChars passage.text
  if text.isEmpty then none
  else some (passage.comments.map String.ofList, String.ofList text)

/-- The statements of a reading with the comments before each of them. -/
def Reading.told (reading : Reading) : List (List String × String) :=
  reading.passages.filterMap Passage.told?

/-- The statements of a script with the comments before each of them. -/
def annotated (script : String) : List (List String × String) :=
  (read .statement script.toList).told

section Pieces

theorem extendFirst_texts (c : Char) (reading : Reading) :
    extendFirst c (reading.passages.map Passage.text) =
      (reading.write [c]).passages.map Passage.text :=
  rfl

theorem texts_remark (comment : List Char) (reading : Reading) :
    (reading.remark comment).passages.map Passage.text = reading.passages.map Passage.text :=
  rfl

theorem texts_note (c : Char) (reading : Reading) :
    (reading.note c).passages.map Passage.text = reading.passages.map Passage.text := by
  unfold Reading.note
  cases reading.first.comments with
  | nil => rfl
  | cons comment rest => rfl

/-- A reading cuts where the cuts are. -/
theorem texts_read (zone : Zone) (chars : List Char) :
    (read zone chars).passages.map Passage.text = cut zone chars := by
  induction zone, chars using cut.induct with
  | case1 zone =>
      cases zone with
      | statement => rfl
      | comment => rfl
      | literal => rfl
  | case2 rest ih => rw [read, cut, if_pos rfl, if_pos rfl, texts_remark, ← ih, extendFirst_texts]
  | case3 c rest within ih => rw [read, cut, if_neg within, if_neg within, texts_note, ih]
  | case4 c rest ih => rw [read, cut, ← ih, extendFirst_texts]
  | case5 rest ih => rw [read, cut, ih]
  | case6 rest plain ih =>
      rw [read, cut, if_pos rfl, if_pos rfl, ← ih]
      · rfl
      · exact plain
      · exact plain
  | case7 c rest plain unended ih =>
      rw [read, cut, if_neg unended, if_neg unended, ← ih, extendFirst_texts]
      · exact plain
      · exact plain

/-- A script is cut into the statements that it tells. -/
theorem pieces_eq (script : String) : pieces script = (annotated script).map Prod.snd := by
  rw [pieces, annotated, Reading.told, ← texts_read]
  generalize (read .statement script.toList).passages = passages
  induction passages with
  | nil => rfl
  | cons passage rest ih =>
      cases blank : (Text.trimChars passage.text).isEmpty with
      | true => simpa [Passage.told?, blank] using ih
      | false => simpa [Passage.told?, blank] using ih

end Pieces

/-! ### Texts that are read whole -/

/-- Where a text leads that neither ends statements nor begins comments. -/
def scan : Zone → List Char → Option Zone
  | zone, [] => some zone
  | .comment, _ :: _ => none
  | .literal, c :: rest => scan (if c = '\'' then .statement else .literal) rest
  | .statement, c :: rest =>
      if c = ';' ∨ c = '-' then none else scan (if c = '\'' then .literal else .statement) rest

theorem scan_append (zone : Zone) (front back : List Char) :
    scan zone (front ++ back) = (scan zone front).bind fun reached => scan reached back := by
  induction zone, front using scan.induct with
  | case1 zone =>
      rw [scan]
      rfl
  | case2 c rest => rfl
  | case3 c rest ih => rw [List.cons_append, scan, scan, ih]
  | case4 c rest special =>
      rw [List.cons_append, scan, scan, if_pos special, if_pos special]
      rfl
  | case5 c rest plain ih =>
      rw [List.cons_append, scan, scan, if_neg plain, if_neg plain, ih]

theorem scan_append_of {zone middle reached : Zone} {front back : String}
    (before : scan zone front.toList = some middle)
    (after : scan middle back.toList = some reached) :
    scan zone (front ++ back).toList = some reached := by
  rw [String.toList_append, scan_append, before, Option.bind_some, after]

/-- Whatever a literal holds, its body leads nowhere else. -/
theorem scan_body (text : List Char) : scan .literal (Literal.body text) = some .literal := by
  induction text with
  | nil => rfl
  | cons c rest ih =>
      by_cases quote : c = '\''
      · simpa [Literal.body, quote, scan] using ih
      · simpa [Literal.body, quote, scan] using ih

theorem read_append_of_scan {zone reached : Zone} {text : List Char} (rest : List Char)
    (scanned : scan zone text = some reached) :
    read zone (text ++ rest) = (read reached rest).write text := by
  induction zone, text using scan.induct with
  | case1 zone =>
      rw [scan] at scanned
      cases scanned
      rfl
  | case2 c later => cases scanned
  | case3 c later ih =>
      rw [scan] at scanned
      rw [List.cons_append, read, ih scanned]
      rfl
  | case4 c later special =>
      rw [scan, if_pos special] at scanned
      cases scanned
  | case5 c later plain ih =>
      rw [scan, if_neg plain] at scanned
      rw [List.cons_append, read, if_neg (fun ended => plain (.inl ended)), ih scanned]
      · rfl
      · intro _ dash
        exact absurd (.inr dash) plain

theorem read_note (comment rest : List Char) (oneLine : '\n' ∉ comment) :
    read .comment (comment ++ '\n' :: rest) =
      ((read .statement rest).write ['\n']).remark comment := by
  induction comment with
  | nil => rw [List.nil_append, read, if_pos rfl]
  | cons c later ih =>
      rw [List.mem_cons, not_or] at oneLine
      rw [List.cons_append, read, if_neg (Ne.symm oneLine.1), ih oneLine.2]
      rfl

/-! ### Entries of a script -/

/-- What the comment above a statement says. -/
def comment (index : Nat) (statement : Statement) : String :=
  " #" ++ toString index ++ " " ++ statement.label ++
    if statement.isIdempotent then "" else ", NOT idempotent"

/-- The statement can be read back from a script. -/
structure Readable (statement : Statement) : Prop where
  label : '\n' ∉ statement.label.toList
  text : scan .statement statement.text.toList = some .statement
  trimmed : Text.trimChars statement.text.toList = statement.text.toList
  solid : statement.text.toList ≠ []

theorem newline_not_mem_comment (index : Nat) {statement : Statement}
    (label : '\n' ∉ statement.label.toList) : '\n' ∉ (comment index statement).toList := by
  have number : '\n' ∉ Nat.toDigits 10 index := by
    intro member
    have digit : Char.isDigit '\n' = true :=
      Nat.isDigit_of_mem_toDigits (by decide) (by decide) member
    revert digit
    decide
  have remark : '\n' ∉
      (if statement.isIdempotent then "" else ", NOT idempotent" : String).toList := by
    cases statement.isIdempotent with
    | true => decide
    | false => decide
  simp [comment, number, label, remark]

theorem entry_toList (index : Nat) (statement : Statement) :
    (entry index statement).toList =
      '-' :: '-' :: ((comment index statement).toList ++
        '\n' :: (statement.text.toList ++ [';', '\n', '\n'])) := by
  simp [entry, header, comment]

theorem read_close (rest : List Char) :
    read .statement (';' :: rest) = (read .statement rest).close :=
  rfl

theorem told_entry (index : Nat) {statement : Statement} (readable : Readable statement)
    (rest : List Char) :
    (read .statement ((entry index statement).toList ++ rest)).told =
      ([comment index statement], statement.text) :: (read .statement rest).told := by
  have told : Passage.told?
      { text := '\n' :: statement.text.toList, comments := [(comment index statement).toList] } =
        some ([comment index statement], statement.text) := by
    simp [Passage.told?, Text.trimChars_newline, readable.trimmed, readable.solid]
  have whole : (entry index statement).toList ++ rest =
      '-' :: '-' :: ((comment index statement).toList ++
        '\n' :: (statement.text.toList ++ ';' :: '\n' :: '\n' :: rest)) := by
    rw [entry_toList]
    simp only [List.cons_append, List.append_assoc, List.nil_append]
  rw [whole, read, read_note _ _ (newline_not_mem_comment index readable.label),
    read_append_of_scan _ readable.text, read_close]
  apply List.filterMap_cons_some
  rw [← told]
  simp [Reading.remark, Reading.write, Reading.close]

/-- Statements that can be read back are read back, each with its comment. -/
theorem annotated_renderFrom (start : Nat) {statements : List Statement}
    (readable : ∀ statement ∈ statements, Readable statement) :
    annotated (renderFrom start statements) =
      (statements.zipIdx start).map fun (statement, index) =>
        ([comment index statement], statement.text) := by
  induction statements generalizing start with
  | nil => rfl
  | cons statement rest ih =>
      rw [annotated, renderFrom, String.toList_append,
        told_entry start (readable statement List.mem_cons_self), ← annotated,
        ih (start + 1) fun later member => readable later (List.mem_cons_of_mem _ member)]
      rfl

end Script

/-! ### The script of the mail schema -/

namespace Schema

open Script

/-- The text opens no literal, ends no statement and begins no comment. -/
def Plain (text : String) : Prop :=
  (text.toList.all fun c => c ≠ ';' && c ≠ '-' && c ≠ '\'') = true

instance (text : String) : Decidable (Plain text) :=
  inferInstanceAs (Decidable (_ = true))

theorem plain_append (front back : String) : Plain (front ++ back) ↔ Plain front ∧ Plain back := by
  unfold Plain
  rw [String.toList_append, List.all_append, Bool.and_eq_true]

theorem plain_join {texts : List String} (each : ∀ text ∈ texts, Plain text) :
    Plain (String.join texts) := by
  induction texts with
  | nil => decide
  | cons text rest ih =>
      rw [String.join_cons, plain_append]
      refine ⟨each text List.mem_cons_self, ?_⟩
      exact ih fun later member => each later (List.mem_cons_of_mem _ member)

theorem plain_intercalate {separator : String} {texts : List String} (between : Plain separator)
    (each : ∀ text ∈ texts, Plain text) : Plain (separator.intercalate texts) := by
  induction texts with
  | nil =>
      rw [String.intercalate_nil]
      decide
  | cons text rest ih =>
      have first := each text List.mem_cons_self
      cases rest with
      | nil => rwa [String.intercalate_singleton]
      | cons next rest =>
          rw [String.intercalate_cons_cons, plain_append, plain_append]
          refine ⟨⟨first, between⟩, ?_⟩
          exact ih fun later member => each later (List.mem_cons_of_mem _ member)

theorem scan_of_plain {text : String} (plain : Plain text) :
    scan .statement text.toList = some .statement := by
  unfold Plain at plain
  generalize text.toList = chars at plain
  induction chars with
  | nil => rfl
  | cons c rest ih =>
      simp only [List.all_cons, Bool.and_eq_true, decide_eq_true_eq] at plain
      rcases plain with ⟨⟨⟨unended, solid⟩, unquoted⟩, later⟩
      rw [scan, if_neg (not_or.mpr ⟨unended, solid⟩), if_neg unquoted]
      exact ih later

/-- The names of a table and of its columns are plain. -/
structure PlainNames (table : Table) : Prop where
  name : Plain table.name
  columns : ∀ column ∈ table.columns, Plain column.1
  partitionKey : Plain table.partitionKey
  clusteringKey : ∀ column ∈ table.clusteringKey, Plain column

theorem plainNames_of_mem {table : Table} (member : table ∈ tables) : PlainNames table := by
  have names : ∀ table ∈ tables, Plain table.name ∧
      (∀ column ∈ table.columns, Plain column.1) ∧ Plain table.partitionKey ∧
        ∀ column ∈ table.clusteringKey, Plain column := by
    decide +kernel
  rcases names table member with ⟨name, columns, partitionKey, clusteringKey⟩
  exact ⟨name, columns, partitionKey, clusteringKey⟩

theorem plain_keyword (type : ColumnType) : Plain type.keyword := by
  cases type <;> decide

section Definition

variable {table : Table} (names : PlainNames table)
include names

theorem plain_primaryKey : Plain table.primaryKey := by
  have key (partition : String) (plain : Plain partition) :
      Plain (", ".intercalate (partition :: table.clusteringKey)) := by
    apply plain_intercalate (by decide)
    intro text member
    rcases List.mem_cons.mp member with rfl | clustering
    · exact plain
    · exact names.clusteringKey text clustering
  unfold Table.primaryKey
  cases table.order with
  | natural =>
      rw [plain_append, plain_append]
      exact ⟨⟨by decide, key _ names.partitionKey⟩, by decide⟩
  | descending =>
      rw [plain_append, plain_append]
      refine ⟨⟨by decide, key _ ?_⟩, by decide⟩
      rw [plain_append, plain_append]
      exact ⟨⟨by decide, names.partitionKey⟩, by decide⟩

theorem plain_orderClause : Plain table.orderClause := by
  unfold Table.orderClause
  cases table.order with
  | natural => exact (by decide : Plain "")
  | descending =>
      rw [plain_append, plain_append]
      refine ⟨⟨by decide, plain_intercalate (by decide) ?_⟩, by decide⟩
      intro text member
      rcases List.mem_map.mp member with ⟨column, present, rfl⟩
      rw [plain_append]
      exact ⟨names.clusteringKey column present, by decide⟩

theorem plain_columns :
    Plain (String.join (table.columns.map fun column =>
      "  " ++ column.1 ++ " " ++ column.2.keyword ++ ",\n")) := by
  apply plain_join
  intro text member
  rcases List.mem_map.mp member with ⟨column, present, rfl⟩
  simp only [plain_append]
  exact ⟨⟨⟨⟨by decide, names.columns column present⟩, by decide⟩, plain_keyword column.2⟩,
    by decide⟩

theorem plain_definition : Plain (table.definition keyspace) := by
  unfold Table.definition
  simp only [plain_append]
  refine ⟨⟨⟨⟨⟨⟨⟨⟨⟨?_, ?_⟩, ?_⟩, names.name⟩, ?_⟩, plain_columns names⟩, ?_⟩,
    plain_primaryKey names⟩, ?_⟩, plain_orderClause names⟩
  all_goals decide

end Definition

theorem plain_number (number : Nat) : Plain (toString number) := by
  unfold Plain
  rw [List.all_eq_true]
  intro c member
  have digits : c ∈ Nat.toDigits 10 number := by simpa using member
  have digit : c.isDigit = true := Nat.isDigit_of_mem_toDigits (by decide) (by decide) digits
  have solid (other : Char) (sign : other.isDigit = false) : c ≠ other := by
    rintro rfl
    rw [sign] at digit
    cases digit
  simp [solid ';' rfl, solid '-' rfl, solid '\'' rfl]

theorem scan_keyspaceText (replicationFactor : UInt32) :
    scan .statement (keyspaceText replicationFactor).toList = some .statement := by
  have front : Plain ("CREATE KEYSPACE IF NOT EXISTS " ++ keyspace) := by decide +kernel
  have clause : scan .statement
      (" WITH REPLICATION = \x7b\n  'class': 'SimpleStrategy',\n  'replication_factor': ").toList =
        some .statement := by
    decide +kernel
  unfold keyspaceText
  apply scan_append_of
  · exact scan_append_of (scan_append_of (scan_of_plain front) clause)
      (scan_of_plain (plain_number _))
  · exact scan_of_plain (by decide)

/-- Whatever the domain is, its literal ends where it is meant to. -/
theorem scan_seedText (domain : String) :
    scan .statement (seedText domain).toList = some .statement := by
  have front : Plain ("INSERT INTO " ++ keyspace) := by decide +kernel
  have opening : scan .statement
      ".local_domain (e_domain, e_domain_uuid) VALUES ('".toList = some .literal := by
    decide +kernel
  have literal : scan .literal (String.ofList (Literal.body domain.toList)).toList =
      some .literal := by
    rw [String.toList_ofList]
    exact scan_body domain.toList
  have closing : scan .literal "', now())".toList = some .statement := by decide +kernel
  unfold seedText
  exact scan_append_of (scan_append_of (scan_append_of (scan_of_plain front) opening) literal)
    closing

/-- What the labels of the schema are like, apart from the one for the row. -/
def PlainLabel (label : String) : Prop :=
  '\n' ∉ label.toList ∧ label.toList.getLast? ∈ [some 'e', some 'n', some 's']

instance (label : String) : Decidable (PlainLabel label) :=
  inferInstanceAs (Decidable (_ ∧ _))

/-- The statements create the keyspace and its tables, and the last one may add a row. -/
inductive OfMail : Statement → Prop
  | create {label text : String} (plain : PlainLabel label)
      (scanned : scan .statement text.toList = some .statement) (solid : text.toList ≠ [])
      (kept : (Statement.idempotent label text).text = text) :
      OfMail (.idempotent label text)
  | seed (domain : String) : OfMail (.append "seed_local_domain" (seedText domain))

theorem ofMail_of_mem {options : Options} {statement : Statement}
    (member : statement ∈ statements options) : OfMail statement := by
  have labels : ∀ table ∈ tables, PlainLabel table.name := by decide +kernel
  rcases exists_belongs member with ⟨command, belongs⟩
  cases belongs with
  | keyspace =>
      rcases keyspaceText_toList options.replicationFactor with ⟨rest, spelled⟩
      refine .create (by decide) (scan_keyspaceText _) ?_ (text_keyspace _ _)
      rw [spelled]
      simp
  | @table created present =>
      rcases created.definition_toList keyspace with ⟨rest, spelled⟩
      refine .create (labels created present)
        (scan_of_plain (plain_definition (plainNames_of_mem present))) ?_ (text_definition _ _)
      rw [spelled]
      simp
  | @seed domain => exact .seed domain

theorem readable_of_ofMail {statement : Statement} (mail : OfMail statement) :
    Readable statement := by
  have trimmed (repetition : Repetition) (label text : String) :
      Text.trimChars (Statement.ofText repetition label text).text.toList =
        (Statement.ofText repetition label text).text.toList := by
    rw [Statement.ofText, String.toList_ofList]
    exact Statement.trimChars_stripChars text.toList
  cases mail with
  | create plain scanned solid kept =>
      refine ⟨plain.1, ?_, trimmed _ _ _, ?_⟩
      · rw [kept]
        exact scanned
      · rw [kept]
        exact solid
  | seed domain =>
      rcases seedText_toList domain with ⟨rest, spelled⟩
      have label : '\n' ∉ "seed_local_domain".toList := by decide
      refine ⟨label, ?_, trimmed _ _ _, ?_⟩
      · rw [text_seed]
        exact scan_seedText domain
      · rw [text_seed, spelled]
        simp

/-- What a script says of a statement: its comment numbers it and says whether applying it again
adds data, and its text is the whole piece. -/
structure Tells (index : Nat) (statement : Statement) (told : List String × String) : Prop where
  piece : told.2 = statement.text
  comment : ∃ comment, told.1 = [comment] ∧
    (" #" ++ toString index ++ " ").toList <+: comment.toList ∧
    (", NOT idempotent".toList <:+ comment.toList ↔ statement.repetition = .append)

theorem comment_idempotent (index : Nat) (label text : String) :
    (Script.comment index (.idempotent label text)).toList =
      (" #" ++ toString index ++ " ").toList ++ label.toList := by
  rw [← String.toList_append, ← @String.append_empty (_ ++ label)]
  rfl

/-- The mark ends in a letter that no plain label ends in. -/
theorem not_marked_of_plainLabel {label : String} (plain : PlainLabel label) (index : Nat)
    (text : String) :
    ¬", NOT idempotent".toList <:+ (Script.comment index (.idempotent label text)).toList := by
  rintro ⟨front, whole⟩
  have last := congrArg List.getLast? whole
  rw [comment_idempotent, List.getLast?_append, List.getLast?_append] at last
  have mark : ", NOT idempotent".toList.getLast? = some 't' := by decide
  have ends := plain.2
  simp only [List.mem_cons, List.not_mem_nil, or_false] at ends
  rcases ends with ends | ends | ends
  · rw [mark, ends, Option.some_or, Option.some_or] at last
    revert last
    decide
  · rw [mark, ends, Option.some_or, Option.some_or] at last
    revert last
    decide
  · rw [mark, ends, Option.some_or, Option.some_or] at last
    revert last
    decide

theorem tells_of_ofMail (index : Nat) {statement : Statement} (mail : OfMail statement) :
    Tells index statement ([Script.comment index statement], statement.text) := by
  refine ⟨rfl, _, rfl, ?_, ?_⟩
  · refine ⟨(statement.label ++
      if statement.isIdempotent then "" else ", NOT idempotent").toList, ?_⟩
    simp only [Script.comment, String.toList_append, List.append_assoc]
  · cases mail with
    | create plain scanned solid kept =>
        apply iff_of_false
        · exact not_marked_of_plainLabel plain index _
        · rintro ⟨⟩
    | seed domain =>
        apply iff_of_true
        · rw [Script.comment, String.toList_append]
          exact List.suffix_append _ _
        · rfl

end Schema

end MailProvision
