import MailProvision.Config.Basic
import MailProvision.Proofs.Schema.Mail

/-!
# The seed stays in its literal

The last statement of a schema with a seed is read as the query language reads it: into the texts
outside literals and the values of the literals (`Literal.parts`). Whatever the domain holds, there is
one literal, its value is the domain, and what stands outside is always the same.

In a configuration the domain may have white space around it; what is left without it is the value, and
where nothing is left no row is added.
-/

namespace MailProvision

namespace Literal

/-- The texts outside the literals of a statement and the values of the literals in turn, beginning
and ending outside. A literal runs from a quote to the next quote that is not doubled; a statement
that ends inside of one is none. The flag tells whether the text starts inside a literal. -/
def parts : Bool → List Char → Option (List (List Char))
  | false, [] => some [[]]
  | true, [] => none
  | true, '\'' :: '\'' :: rest => (parts true rest).map (List.modifyHead ('\'' :: ·))
  | inside, c :: rest =>
      if c = '\'' then (parts (!inside) rest).map ([] :: ·)
      else (parts inside rest).map (List.modifyHead (c :: ·))

/-- Inside a literal its value comes first, and then what follows its closing quote. -/
theorem parts_inside (chars : List Char) :
    parts true chars =
      (read? chars).bind fun (value, after) => (parts false after).map (value :: ·) := by
  induction chars using read?.induct with
  | case1 => rfl
  | case2 rest ih =>
      rw [parts, read?, ih]
      cases read? rest with
      | none => rfl
      | some found => simp [Function.comp_def]
  | case3 rest single =>
      rw [parts, read?]
      · simp
      · exact single
      · exact fun later _ => single later
  | case4 c rest single other ih =>
      rw [parts, read?, if_neg other, if_neg other, ih]
      · cases read? rest with
        | none => rfl
        | some found => simp [Function.comp_def]
      · exact single
      · exact fun later _ => single later

theorem parts_of_unquoted {plain : List Char} (unquoted : '\'' ∉ plain) :
    parts false plain = some [plain] := by
  induction plain with
  | nil => rfl
  | cons c rest ih =>
      rw [List.mem_cons, not_or] at unquoted
      rw [parts, if_neg (Ne.symm unquoted.1), ih unquoted.2]
      · rfl
      · simp

theorem parts_append_quote {plain : List Char} (unquoted : '\'' ∉ plain) (rest : List Char) :
    parts false (plain ++ '\'' :: rest) = (parts true rest).map (plain :: ·) := by
  induction plain with
  | nil =>
      rw [List.nil_append, parts]
      · rfl
      · simp
  | cons c later ih =>
      rw [List.mem_cons, not_or] at unquoted
      rw [List.cons_append, parts, if_neg (Ne.symm unquoted.1), ih unquoted.2]
      · cases parts true rest <;> rfl
      · simp

/-- Whatever the value is, a text with one literal is read as it was written. -/
theorem parts_around {front back : List Char} (value : List Char) (before : '\'' ∉ front)
    (after : '\'' ∉ back) :
    parts false (front ++ '\'' :: (body value ++ '\'' :: back)) = some [front, value, back] := by
  have ended : back.head? ≠ some '\'' := by
    intro starts
    exact after (List.mem_of_mem_head? starts)
  rw [parts_append_quote before, parts_inside, read?_body_append _ _ ended]
  simp only [Option.bind_some, parts_of_unquoted after, Option.map_some]

end Literal

namespace Schema

/-- The last statement adds the domain: read back, its one literal holds the domain, and nothing
outside of it depends on the domain. -/
def EndsInSeed (options : Options) (domain : String) : Prop :=
  ∃ statement, (statements options).getLast? = some statement ∧
    statement.repetition = .append ∧
    Literal.parts false statement.text.toList =
      some
        ["INSERT INTO fannst.local_domain (e_domain, e_domain_uuid) VALUES (".toList,
          domain.toList, ", now())".toList]

theorem seedText_toList_literal (domain : String) :
    (seedText domain).toList =
      "INSERT INTO fannst.local_domain (e_domain, e_domain_uuid) VALUES (".toList ++
        '\'' :: (Literal.body domain.toList ++ '\'' :: ", now())".toList) := by
  have parted (front back : String) {opening closing : String}
      {before after : List Char} (opens : opening.toList = before ++ ['\''])
      (closes : closing.toList = '\'' :: after) :
      (front ++ back ++ opening ++ String.ofList (Literal.body domain.toList) ++ closing).toList =
        (front ++ back).toList ++ before ++
          '\'' :: (Literal.body domain.toList ++ '\'' :: after) := by
    simp only [String.toList_append, opens, closes, String.toList_ofList, List.append_assoc,
      List.cons_append, List.nil_append]
  have opens : ".local_domain (e_domain, e_domain_uuid) VALUES ('".toList =
      ".local_domain (e_domain, e_domain_uuid) VALUES (".toList ++ ['\''] := by
    decide +kernel
  have closes : "', now())".toList = '\'' :: ", now())".toList := by decide +kernel
  have front : ("INSERT INTO " ++ keyspace).toList ++
      ".local_domain (e_domain, e_domain_uuid) VALUES (".toList =
        "INSERT INTO fannst.local_domain (e_domain, e_domain_uuid) VALUES (".toList := by
    decide +kernel
  rw [seedText, parted _ _ opens closes, front]

theorem getLast?_statements {options : Options} {domain : String}
    (chosen : options.seedDomain = some domain) (solid : domain.isEmpty = false) :
    (statements options).getLast? = some (seedStatement domain) := by
  rw [statements, seedStatements_of_chosen chosen solid, List.getLast?_append,
    List.getLast?_singleton, Option.some_or]

theorem endsInSeed_of_chosen {options : Options} {domain : String}
    (chosen : options.seedDomain = some domain) (solid : domain.isEmpty = false) :
    EndsInSeed options domain := by
  refine ⟨_, getLast?_statements chosen solid, rfl, ?_⟩
  rw [seedStatement, text_seed, seedText_toList_literal]
  exact Literal.parts_around _ (by decide +kernel) (by decide +kernel)

/-- The domain can be told from the last statement. -/
theorem EndsInSeed.domain_eq {options other : Options} {domain domain' : String}
    (seeded : EndsInSeed options domain) (seeded' : EndsInSeed other domain')
    (same : (statements options).getLast? = (statements other).getLast?) : domain = domain' := by
  rcases seeded with ⟨statement, found, _, read⟩
  rcases seeded' with ⟨statement', found', _, read'⟩
  obtain rfl : statement = statement' := Option.some.inj (found.symm.trans (same.trans found'))
  have parts := Option.some.inj (read.symm.trans read')
  simp only [List.cons.injEq, and_true, true_and] at parts
  exact String.toList_inj.mp parts

/-- The statement adds a row. -/
def IsInsert (statement : Statement) : Prop :=
  "INSERT".toList <+: statement.text.toList

theorem not_isInsert_of_creation {text : String} {rest : List Char} {label beginning : String}
    (kept : (Statement.idempotent label text).text = text)
    (spelled : text.toList = beginning.toList ++ rest)
    (apart : ¬"INSERT".toList <+: beginning.toList ∧ ¬beginning.toList <+: "INSERT".toList) :
    ¬IsInsert (Statement.idempotent label text) := by
  rw [IsInsert, kept, spelled]
  intro inserts
  rcases List.prefix_or_prefix_of_prefix inserts (List.prefix_append _ _) with shorter | longer
  · exact apart.1 shorter
  · exact apart.2 longer

theorem not_isInsert_keyspaceStatement (options : Options) :
    ¬IsInsert (keyspaceStatement options) := by
  rcases keyspaceText_toList options.replicationFactor with ⟨rest, spelled⟩
  exact not_isInsert_of_creation (text_keyspace _ _) spelled (by decide +kernel)

theorem not_isInsert_tableStatement (table : Table) : ¬IsInsert (tableStatement table) := by
  rcases table.definition_toList keyspace with ⟨rest, spelled⟩
  exact not_isInsert_of_creation (text_definition _ _) spelled (by decide +kernel)

theorem isInsert_seedStatement (domain : String) : IsInsert (seedStatement domain) := by
  rcases seedText_toList domain with ⟨rest, spelled⟩
  have begins : "INSERT".toList <+: "INSERT INTO ".toList := by decide +kernel
  rw [IsInsert, seedStatement, text_seed, spelled]
  exact begins.trans (List.prefix_append _ _)

/-- Only the seed is an insert. -/
theorem Belongs.chosen_of_isInsert {options : Options} {statement : Statement}
    {command : MemoryCluster.Command} (belongs : Belongs options statement command)
    (inserts : IsInsert statement) :
    ∃ domain, options.seedDomain = some domain ∧ domain.isEmpty = false := by
  cases belongs with
  | keyspace => exact absurd inserts (not_isInsert_keyspaceStatement options)
  | table _ => exact absurd inserts (not_isInsert_tableStatement _)
  | seed chosen solid => exact ⟨_, chosen, solid⟩

theorem exists_isInsert_iff {options : Options} :
    (∃ statement ∈ statements options, IsInsert statement) ↔
      ∃ domain, options.seedDomain = some domain ∧ domain.isEmpty = false := by
  constructor
  · rintro ⟨statement, member, inserts⟩
    rcases exists_belongs member with ⟨command, belongs⟩
    exact belongs.chosen_of_isInsert inserts
  · rintro ⟨domain, chosen, solid⟩
    exact ⟨_, List.mem_of_getLast? (getLast?_statements chosen solid),
      isInsert_seedStatement domain⟩

end Schema

namespace SchemaSettings

theorem seedDomain?_eq_some_iff {schema : SchemaSettings} {value : String} :
    schema.seedDomain? = some value ↔
      ∃ domain, schema.seedDomain = some domain ∧ Text.trim domain = value ∧
        value.isEmpty = false := by
  simp only [seedDomain?, Option.filter_eq_some_iff, Option.map_eq_some_iff, Bool.not_eq_true']
  constructor
  · rintro ⟨⟨domain, loaded, trimmed⟩, solid⟩
    exact ⟨domain, loaded, trimmed, solid⟩
  · rintro ⟨domain, loaded, trimmed, solid⟩
    exact ⟨⟨domain, loaded, trimmed⟩, solid⟩

theorem isEmpty_trim (domain : String) :
    (Text.trim domain).isEmpty = domain.toList.all Text.isBlank := by
  rw [Bool.eq_iff_iff, ← Text.trimChars_eq_nil_iff, Text.trim, String.isEmpty_iff,
    String.ofList_eq_empty_iff]

end SchemaSettings

namespace Schema

variable {schema : SchemaSettings}

/-- What a configuration adds is its domain without the white space around it. -/
theorem exists_endsInSeed_of_loaded {domain : String} (loaded : schema.seedDomain = some domain)
    (solid : domain.toList.all Text.isBlank = false) :
    ∃ value, Text.Trims domain.toList value.toList ∧ EndsInSeed schema.options value := by
  have kept : (Text.trim domain).isEmpty = false := by
    rw [SchemaSettings.isEmpty_trim, solid]
  have chosen : schema.options.seedDomain = some (Text.trim domain) :=
    SchemaSettings.seedDomain?_eq_some_iff.2 ⟨domain, loaded, rfl, kept⟩
  refine ⟨Text.trim domain, ?_, endsInSeed_of_chosen chosen kept⟩
  simpa only [Text.trim, String.toList_ofList] using Text.trims_trimChars domain.toList

theorem inserts_nothing_iff :
    (∀ statement ∈ statements schema.options, ¬IsInsert statement) ↔
      ∀ domain, schema.seedDomain = some domain → domain.toList.all Text.isBlank = true := by
  constructor
  · intro silent domain loaded
    by_contra solid
    rw [Bool.not_eq_true] at solid
    have kept := (SchemaSettings.isEmpty_trim domain).trans solid
    have chosen : schema.options.seedDomain = some (Text.trim domain) :=
      SchemaSettings.seedDomain?_eq_some_iff.2 ⟨domain, loaded, rfl, kept⟩
    rcases exists_isInsert_iff.2 ⟨_, chosen, kept⟩ with ⟨statement, member, inserts⟩
    exact silent statement member inserts
  · intro blank statement member inserts
    rcases exists_isInsert_iff.1 ⟨statement, member, inserts⟩ with ⟨value, chosen, kept⟩
    rcases SchemaSettings.seedDomain?_eq_some_iff.1 chosen with ⟨domain, loaded, rfl, _⟩
    rw [SchemaSettings.isEmpty_trim, blank domain loaded] at kept
    cases kept

/-- Whatever the seed is, the last statement adds it from inside one literal, and two seeds give two
statements. What a configuration adds is its domain without the white space around it, and its
statements insert nothing exactly where that domain is missing or blank. -/
theorem seed_stays_in_its_literal :
    (∀ (options : Options) (domain : String), options.seedDomain = some domain → domain ≠ "" →
      EndsInSeed options domain ∧
        ∀ (other : Options) (domain' : String), other.seedDomain = some domain' → domain' ≠ "" →
          domain ≠ domain' → (statements options).getLast? ≠ (statements other).getLast?) ∧
    ∀ config : Config,
      (∀ domain, config.schema.seedDomain = some domain →
        domain.toList.all Text.isBlank = false →
          ∃ value, Text.Trims domain.toList value.toList ∧
            EndsInSeed config.schema.options value) ∧
      ((∀ statement ∈ statements config.schema.options, ¬IsInsert statement) ↔
        ∀ domain, config.schema.seedDomain = some domain →
          domain.toList.all Text.isBlank = true) := by
  have ends {options : Options} {domain : String} (chosen : options.seedDomain = some domain)
      (solid : domain ≠ "") : EndsInSeed options domain :=
    endsInSeed_of_chosen chosen (by simpa using solid)
  constructor
  · intro options domain chosen solid
    refine ⟨ends chosen solid, ?_⟩
    intro other domain' chosen' solid' differ same
    exact differ ((ends chosen solid).domain_eq (ends chosen' solid') same)
  · intro config
    exact ⟨fun domain => exists_endsInSeed_of_loaded, inserts_nothing_iff⟩

/-- A domain of quotes, semicolons and line breaks. -/
def quotedDomain : String := "';\n'' -- , now());\n'"

theorem seed_stays_in_its_literal_awkward :
    EndsInSeed { seedDomain := some quotedDomain } quotedDomain ∧
      (statements { seedDomain := some quotedDomain }).getLast? ≠
        (statements { seedDomain := some "fannst.nl" }).getLast? ∧
      ∃ value, Text.Trims ("\n " ++ quotedDomain ++ "\t").toList value.toList ∧
        EndsInSeed
          (SchemaSettings.options { seedDomain := some ("\n " ++ quotedDomain ++ "\t") })
          value := by
  have solid : quotedDomain ≠ "" := by decide +kernel
  have database : DatabaseSettings := { hosts := "db1", port := 9042 }
  rcases seed_stays_in_its_literal with ⟨chosen, loaded⟩
  rcases chosen { seedDomain := some quotedDomain } quotedDomain rfl solid with ⟨ends, apart⟩
  refine ⟨ends, apart { seedDomain := some "fannst.nl" } "fannst.nl" rfl ?_ ?_, ?_⟩
  · decide +kernel
  · decide +kernel
  · exact (loaded { database, schema := { seedDomain := some _ } }).1 _ rfl (by decide +kernel)

end Schema

end MailProvision
