import MailProvision.Proofs.Cluster.Memory
import MailProvision.Proofs.Text.Trimming
import MailProvision.Schema.Mail

/-!
# The statements of the mail schema as commands

Each text of the schema starts with a word and ends in a bracket, so it is kept as it is written,
and each spells one command: the keyspace, a table of it, or a row of the table of local domains.
-/

namespace MailProvision

namespace Text

theorem getLast?_toList_append (front : String) {back : String} {last : Char}
    (ends : back.toList.getLast? = some last) : (front ++ back).toList.getLast? = some last := by
  rw [String.toList_append, List.getLast?_append, ends, Option.some_or]

end Text

namespace Statement

/-- A text that neither starts nor ends in white space, nor ends in a semicolon, is kept. -/
theorem stripChars_of_ends {chars : List Char} {first last : Char}
    (starts : chars.head? = some first) (solid : Text.isBlank first = false)
    (ends : chars.getLast? = some last) (closed : Text.isBlank last = false)
    (unended : last ≠ ';') : stripChars chars = chars := by
  have untrimmed : Text.trimChars chars = chars := by
    rw [Text.trimChars, Text.trimStartChars_of_first starts solid, Text.trimEndChars,
      Text.dropEndWhile_of_last ends closed]
  rw [stripChars, untrimmed, Text.dropEndWhile_of_last ends (by simpa using unended),
    Text.trimEndChars, Text.dropEndWhile_of_last ends closed]

theorem ofText_text {text : String} {first last : Char} (repetition : Repetition)
    (label : String) (starts : text.toList.head? = some first)
    (solid : Text.isBlank first = false) (ends : text.toList.getLast? = some last)
    (closed : Text.isBlank last = false) (unended : last ≠ ';') :
    (ofText repetition label text).text = text := by
  rw [ofText, stripChars_of_ends starts solid ends closed unended, String.ofList_toList]

end Statement

namespace MemoryCluster

theorem afterPrefix?_append (beginning : String) (rest : List Char) :
    afterPrefix? beginning (beginning.toList ++ rest) = some rest := by
  have begins : beginning.toList.isPrefixOf (beginning.toList ++ rest) = true :=
    List.isPrefixOf_iff_prefix.mpr (List.prefix_append _ _)
  rw [afterPrefix?, begins, if_pos rfl, ← String.length_toList, List.drop_left]

theorem afterPrefix?_of_apart {beginning other : String} (rest : List Char)
    (apart : ¬ beginning.toList <+: other.toList ∧ ¬ other.toList <+: beginning.toList) :
    afterPrefix? beginning (other.toList ++ rest) = none := by
  have differs : ¬ beginning.toList.isPrefixOf (other.toList ++ rest) = true := by
    rw [List.isPrefixOf_iff_prefix]
    intro begins
    rcases List.prefix_or_prefix_of_prefix begins (List.prefix_append _ _) with shorter | longer
    · exact apart.1 shorter
    · exact apart.2 longer
  rw [afterPrefix?, if_neg differs]

/-- A name that ends where a blank or a bracket follows. -/
def IsObjectName (name : String) : Prop :=
  (name.toList.all fun c => !Text.isBlank c && c ≠ '(') = true

theorem objectName_append {name : String} (named : IsObjectName name) (rest : List Char) :
    objectName (name.toList ++ ' ' :: rest) = name := by
  have taken : (name.toList ++ ' ' :: rest).takeWhile (fun c => !Text.isBlank c && c ≠ '(') =
      name.toList := by
    rw [List.takeWhile_append_of_pos (List.all_eq_true.mp named)]
    simp [Text.isBlank]
  rw [objectName, taken, String.ofList_toList]

namespace Command

variable {name : String} (named : IsObjectName name) (rest : List Char)
include named

theorem ofChars?_createKeyspace :
    ofChars? ("CREATE KEYSPACE IF NOT EXISTS ".toList ++ (name.toList ++ ' ' :: rest)) =
      some (.createKeyspace name) := by
  simp only [ofChars?, afterPrefix?_append, objectName_append named]

theorem ofChars?_createTable :
    ofChars? ("CREATE TABLE IF NOT EXISTS ".toList ++ (name.toList ++ ' ' :: rest)) =
      some (.createTable name) := by
  rw [ofChars?, afterPrefix?_of_apart _ (by decide +kernel)]
  simp only [afterPrefix?_append, objectName_append named]

theorem ofChars?_addRow :
    ofChars? ("INSERT INTO ".toList ++ (name.toList ++ ' ' :: rest)) = some (.addRow name) := by
  rw [ofChars?, afterPrefix?_of_apart _ (by decide +kernel)]
  simp only [afterPrefix?_of_apart _ (show ¬ "CREATE TABLE IF NOT EXISTS ".toList <+:
    "INSERT INTO ".toList ∧ ¬ "INSERT INTO ".toList <+: "CREATE TABLE IF NOT EXISTS ".toList by
      decide +kernel), afterPrefix?_append, objectName_append named, Option.map_some]

end Command

end MemoryCluster

namespace Table

theorem definition_toList (table : Table) (keyspace : String) :
    ∃ rest, (table.definition keyspace).toList =
      "CREATE TABLE IF NOT EXISTS ".toList ++
        ((keyspace ++ "." ++ table.name).toList ++ ' ' :: rest) := by
  have bracket : " (\n".toList = ' ' :: ['(', '\n'] := by simp
  have parted (front columns indent key close order : String) :
      (front ++ keyspace ++ "." ++ table.name ++ " (\n" ++ columns ++ indent ++ key ++ close ++
          order).toList =
        front.toList ++ ((keyspace ++ "." ++ table.name).toList ++
          ' ' :: '(' :: '\n' :: (columns ++ indent ++ key ++ close ++ order).toList) := by
    simp only [String.toList_append, bracket, List.append_assoc, List.cons_append,
      List.nil_append]
  exact ⟨_, parted _ _ _ _ _ _⟩

theorem getLast?_definition (table : Table) (keyspace : String) :
    (table.definition keyspace).toList.getLast? = some ')' := by
  unfold definition orderClause
  cases table.order with
  | natural =>
      simp only [String.append_empty]
      exact Text.getLast?_toList_append _ (by simp)
  | descending =>
      exact Text.getLast?_toList_append _ (Text.getLast?_toList_append _ (by simp))

end Table

namespace Schema

open MemoryCluster

/-- The name of a table together with its keyspace. -/
def qualified (table : Table) : String :=
  keyspace ++ "." ++ table.name

/-- The name of the table that takes the seed. -/
def seeded : String :=
  qualified localDomain

theorem isObjectName_qualified {table : Table} (member : table ∈ tables) :
    IsObjectName (qualified table) := by
  revert table
  unfold IsObjectName
  decide +kernel

theorem isObjectName_keyspace : IsObjectName keyspace := by
  unfold IsObjectName
  decide +kernel

theorem keyspaceText_toList (replicationFactor : UInt32) :
    ∃ rest, (keyspaceText replicationFactor).toList =
      "CREATE KEYSPACE IF NOT EXISTS ".toList ++ (keyspace.toList ++ ' ' :: rest) := by
  have parted (front clause number close : String) {tail : List Char}
      (blank : clause.toList = ' ' :: tail) :
      (front ++ keyspace ++ clause ++ number ++ close).toList =
        front.toList ++ (keyspace.toList ++ ' ' :: (tail ++ (number ++ close).toList)) := by
    simp only [String.toList_append, blank, List.append_assoc, List.cons_append]
  exact ⟨_, parted _ _ _ _ (by simp; rfl)⟩

theorem text_keyspace (label : String) (replicationFactor : UInt32) :
    (Statement.idempotent label (keyspaceText replicationFactor)).text =
      keyspaceText replicationFactor := by
  rcases keyspaceText_toList replicationFactor with ⟨rest, spelled⟩
  have starts : (keyspaceText replicationFactor).toList.head? = some 'C' := by
    rw [spelled]
    simp
  have ends : (keyspaceText replicationFactor).toList.getLast? = some '\x7d' := by
    unfold keyspaceText
    exact Text.getLast?_toList_append _ (by simp)
  exact Statement.ofText_text _ _ starts (by decide) ends (by decide) (by decide)

theorem keyspaceText_command (label : String) (replicationFactor : UInt32) :
    Command.ofChars? (Statement.idempotent label (keyspaceText replicationFactor)).text.toList =
      some (.createKeyspace keyspace) := by
  rcases keyspaceText_toList replicationFactor with ⟨rest, spelled⟩
  rw [text_keyspace, spelled]
  exact Command.ofChars?_createKeyspace isObjectName_keyspace rest

theorem text_definition (label : String) (table : Table) :
    (Statement.idempotent label (table.definition keyspace)).text = table.definition keyspace := by
  rcases table.definition_toList keyspace with ⟨rest, spelled⟩
  have starts : (table.definition keyspace).toList.head? = some 'C' := by
    rw [spelled]
    simp
  exact Statement.ofText_text _ _ starts (by decide) (table.getLast?_definition keyspace)
    (by decide) (by decide)

theorem definition_command {table : Table} (member : table ∈ tables) (label : String) :
    Command.ofChars? (Statement.idempotent label (table.definition keyspace)).text.toList =
      some (.createTable (qualified table)) := by
  rcases table.definition_toList keyspace with ⟨rest, spelled⟩
  rw [text_definition, spelled]
  exact Command.ofChars?_createTable (isObjectName_qualified member) rest

theorem seedText_toList (domain : String) :
    ∃ rest, (seedText domain).toList =
      "INSERT INTO ".toList ++ (seeded.toList ++ ' ' :: rest) := by
  have parted (front literal close : String) {clause : String} {tail : List Char}
      (named : clause.toList = ("." ++ localDomain.name).toList ++ ' ' :: tail) :
      (front ++ keyspace ++ clause ++ literal ++ close).toList =
        front.toList ++ (seeded.toList ++ ' ' :: (tail ++ (literal ++ close).toList)) := by
    simp only [String.toList_append, named, seeded, qualified, List.append_assoc,
      List.cons_append]
  exact ⟨_, parted _ _ _ (by simp [localDomain]; rfl)⟩

theorem text_seed (label domain : String) :
    (Statement.append label (seedText domain)).text = seedText domain := by
  rcases seedText_toList domain with ⟨rest, spelled⟩
  have starts : (seedText domain).toList.head? = some 'I' := by
    rw [spelled]
    simp
  have ends : (seedText domain).toList.getLast? = some ')' := by
    unfold seedText
    exact Text.getLast?_toList_append _ (by simp)
  exact Statement.ofText_text _ _ starts (by decide) ends (by decide) (by decide)

theorem seedText_command (label domain : String) :
    Command.ofChars? (Statement.append label (seedText domain)).text.toList =
      some (.addRow seeded) := by
  rcases seedText_toList domain with ⟨rest, spelled⟩
  rw [text_seed, spelled]
  exact Command.ofChars?_addRow
    (isObjectName_qualified (show localDomain ∈ tables by decide +kernel)) rest

/-! ### The statements by what they are for -/

/-- The statement that creates the keyspace. -/
def keyspaceStatement (options : Options) : Statement :=
  .idempotent "keyspace" (keyspaceText options.replicationFactor)

/-- The statement that creates a table. -/
def tableStatement (table : Table) : Statement :=
  .idempotent table.name (table.definition keyspace)

/-- The statement that adds a local domain. -/
def seedStatement (domain : String) : Statement :=
  .append "seed_local_domain" (seedText domain)

/-- Everything that a statement of the schema can be, with the command that it spells. -/
inductive Belongs (options : Options) : Statement → Command → Prop
  | keyspace : Belongs options (keyspaceStatement options) (.createKeyspace keyspace)
  | table {table : Table} (member : table ∈ tables) :
      Belongs options (tableStatement table) (.createTable (qualified table))
  | seed {domain : String} (chosen : options.seedDomain = some domain)
      (solid : domain.isEmpty = false) :
      Belongs options (seedStatement domain) (.addRow seeded)

variable {options : Options} {statement : Statement} {command : Command}

theorem seedStatements_of_chosen {domain : String} (chosen : options.seedDomain = some domain)
    (solid : domain.isEmpty = false) :
    seedStatements options.seedDomain = [seedStatement domain] := by
  rw [chosen, seedStatements, if_neg (by simp [solid])]
  rfl

theorem mem_seedStatements_iff :
    statement ∈ seedStatements options.seedDomain ↔
      ∃ domain, options.seedDomain = some domain ∧ domain.isEmpty = false ∧
        statement = seedStatement domain := by
  cases chosen : options.seedDomain with
  | none => simp [seedStatements]
  | some domain =>
      rw [seedStatements]
      cases solid : domain.isEmpty with
      | true =>
          simp only [↓reduceIte, Option.some.injEq]
          constructor
          · intro member
            cases member
          · rintro ⟨other, rfl, contrary, _⟩
            cases solid.symm.trans contrary
      | false =>
          simp only [Bool.false_eq_true, ↓reduceIte, List.mem_singleton, Option.some.injEq]
          constructor
          · rintro rfl
            exact ⟨domain, rfl, solid, rfl⟩
          · rintro ⟨other, rfl, _, same⟩
            exact same

theorem exists_belongs (member : statement ∈ statements options) :
    ∃ command, Belongs options statement command := by
  rcases List.mem_append.mp member with creation | seeding
  · rcases List.mem_cons.mp creation with rfl | table
    · exact ⟨_, .keyspace⟩
    · rcases List.mem_map.mp table with ⟨table, found, rfl⟩
      exact ⟨_, .table found⟩
  · rcases mem_seedStatements_iff.1 seeding with ⟨domain, chosen, solid, rfl⟩
    exact ⟨_, .seed chosen solid⟩

theorem Belongs.spells (belongs : Belongs options statement command) :
    Command.ofChars? statement.text.toList = some command := by
  cases belongs with
  | keyspace => exact keyspaceText_command _ _
  | table member => exact definition_command member _
  | seed chosen solid => exact seedText_command _ _

end Schema

end MailProvision
