import MailProvision.Error
import MailProvision.Proofs.Config.Loading
import MailProvision.Proofs.Numeral.Rounding
import MailProvision.Proofs.Settings.Written

/-!
# The numbers of a configuration

What becomes of the value that file and environment give for a whole number. Integers arrive as they
are or make the configuration unusable, but fractions are not refused: they are rounded, and brought
into the range of 64 bits, before the width of the setting is looked at.
-/

namespace MailProvision

open Settings

namespace Config

namespace Width

/-- The width of 64 bits with the same sign, in which values are read first. -/
def wide : Width → Width
  | word16 | word32 | word64 => word64
  | signed64 => signed64

/-- Reads the digits of an integer of 64 bits. -/
def number? : Width → List Char → Option Int
  | word16 | word32 | word64 => Numeral.uint64?
  | signed64 => Numeral.int64?

/-- What a scalar stands for as an integer of 64 bits. -/
inductive Stands (wide : Width) : Scalar → Int → Prop
  | integer {i : Int} (low : wide.least ≤ i) : Stands wide (.integer i) i
  /-- The nearest integer, a half away from zero, or the end of the range on its side. -/
  | rounded {negative : Bool} {significand : Nat} {exponent : Int} :
      Stands wide (.float (.finite negative significand exponent))
        (max wide.least (min wide.greatest (Binary64.nearest negative significand exponent)))
  | infinite {negative : Bool} :
      Stands wide (.float (.infinite negative)) (if negative then wide.least else wide.greatest)
  | nan : Stands wide (.float .nan) 0
  | truth {value : Bool} : Stands wide (.boolean value) (if value then 1 else 0)
  /-- A word for one or zero, or else the digits of an integer. -/
  | text {text : String} {i : Int}
      (spelled : (Value.switch? text <|> wide.number? text.toList) = some i) :
      Stands wide (.text text) i

/-- What a scalar becomes as an integer of the width, if it fits. -/
def Arrives (width : Width) (content : Scalar) (n : Int) : Prop :=
  width.wide.Stands content n ∧ n ≤ width.greatest

theorem switch?_cases {text : String} {i : Int} (known : Value.switch? text = some i) :
    i = 0 ∨ i = 1 := by
  unfold Value.switch? at known
  split at known <;> cases known <;> decide

theorem within_of_int64? {chars : List Char} {i : Int} (spelled : Numeral.int64? chars = some i) :
    signed64.least ≤ i ∧ i ≤ signed64.greatest := by
  have within := (Option.filter_eq_some_iff.mp spelled).2
  simp only [Numeral.isInt64, Bool.and_eq_true, decide_eq_true_eq] at within
  exact within

theorem within_of_uint64? {chars : List Char} {i : Int}
    (spelled : Numeral.uint64? chars = some i) : word64.least ≤ i ∧ i ≤ word64.greatest := by
  unfold Numeral.uint64? at spelled
  split at spelled
  · cases spelled
  · have within := (Option.filter_eq_some_iff.mp spelled).2
    simp only [Numeral.isUInt64, Bool.and_eq_true, decide_eq_true_eq] at within
    exact within

theorem within_of_stands {wide : Width} (is64 : wide = .word64 ∨ wide = .signed64)
    {content : Scalar} (fits : content.Fits) {n : Int} (stands : wide.Stands content n) :
    wide.least ≤ n ∧ n ≤ wide.greatest := by
  have bits : wide.least ≤ 0 ∧ 9223372036854775807 ≤ wide.greatest := by
    rcases is64 with rfl | rfl <;> decide
  cases stands with
  | integer low =>
      have high := fits n rfl
      simp only [Numeral.isInt64, Bool.and_eq_true, decide_eq_true_eq] at high
      exact ⟨low, by omega⟩
  | rounded => exact ⟨le_max_left _ _, max_le (by omega) (min_le_left _ _)⟩
  | infinite => split <;> omega
  | nan => omega
  | truth => split <;> omega
  | @text text _ spelled =>
      cases known : Value.switch? text with
      | some i =>
          rw [known] at spelled
          obtain rfl := Option.some.inj spelled
          rcases switch?_cases known with rfl | rfl <;> omega
      | none =>
          rw [known] at spelled
          rcases is64 with rfl | rfl
          · exact within_of_uint64? spelled
          · exact within_of_int64? spelled

/-- A number that is not finite, or the nearest integer, brought into the range of the width. -/
theorem stands_float_iff {wide : Width} {x : Binary64} {n : Int} :
    wide.Stands (.float x) n ↔ n = x.toIntWithin wide.least wide.greatest := by
  cases x with
  | nan =>
      constructor
      · rintro ⟨⟩
        rfl
      · rintro rfl
        exact .nan
  | infinite negative =>
      constructor
      · rintro ⟨⟩
        rfl
      · rintro rfl
        exact .infinite
  | finite negative significand exponent =>
      rw [Binary64.toIntWithin, Binary64.roundHalfAway_finite, Option.getD_some]
      constructor
      · rintro ⟨⟩
        rfl
      · rintro rfl
        exact .rounded

/-- A double is brought to another number unless it is a whole one within the range. -/
theorem stands_value_iff {wide : Width} {negative : Bool} {significand : Nat} {exponent n : Int}
    (stands : wide.Stands (.float (.finite negative significand exponent)) n) :
    (n : ℚ) = Binary64.valueRat negative significand exponent ↔
      ∃ i : Int, Binary64.valueRat negative significand exponent = i ∧
        wide.least ≤ i ∧ i ≤ wide.greatest := by
  have range : wide.least ≤ wide.greatest := by cases wide <;> decide
  cases stands
  constructor
  · intro same
    exact ⟨_, same.symm, le_max_left _ _, max_le range (min_le_left _ _)⟩
  · rintro ⟨i, whole, low, high⟩
    rw [Binary64.nearest_of_whole whole, min_eq_right high, max_eq_right low, whole]

section Reading

variable {origin : Option Origin} {content : Scalar} {n : Int}

theorem readInt64_iff (fits : content.Fits) :
    Value.readInt64 (.scalar origin content) = .ok n ↔ signed64.Stands content n := by
  cases content with
  | nil =>
      constructor
      · rintro ⟨⟩
      · rintro ⟨⟩
  | boolean value =>
      constructor
      · rintro ⟨⟩
        exact .truth
      · rintro ⟨⟩
        rfl
  | integer i =>
      have within := fits i rfl
      simp only [Numeral.isInt64, Bool.and_eq_true, decide_eq_true_eq] at within
      constructor
      · rintro ⟨⟩
        exact .integer within.1
      · rintro ⟨⟩
        rfl
  | float x => rw [stands_float_iff, Value.readInt64, Except.ok.injEq, eq_comm]; rfl
  | text text =>
      rw [Value.readInt64]
      constructor
      · intro read
        split at read
        · rename_i spelled
          cases read
          exact .text spelled
        · cases read
      · rintro ⟨⟩
        rename_i spelled
        change (Value.switch? text <|> Numeral.int64? text.toList) = some n at spelled
        rw [spelled]

theorem readUInt64_iff {m : Nat} :
    Value.readUInt64 (.scalar origin content) = .ok m ↔ word64.Stands content m := by
  have toNat {i : Int} (low : 0 ≤ i) : i.toNat = m ↔ i = m := by omega
  cases content with
  | nil =>
      constructor
      · rintro ⟨⟩
      · rintro ⟨⟩
  | boolean value =>
      have stands : word64.Stands (.boolean value) (if value then 1 else 0) := .truth
      rw [Value.readUInt64, Except.ok.injEq]
      constructor
      · rintro rfl
        cases value <;> exact stands
      · intro given
        generalize whole : (m : Int) = n at given
        cases given
        cases value <;> simpa [eq_comm] using whole
  | integer i =>
      rw [Value.readUInt64]
      constructor
      · intro read
        split at read
        · rename_i low
          rw [(toNat low).1 (Except.ok.inj read)]
          exact .integer (Int.natCast_nonneg m)
        · cases read
      · rintro ⟨⟩
        rfl
  | float x =>
      have stands := stands_float_iff.2 (rfl : x.toIntWithin word64.least word64.greatest = _)
      have low := (within_of_stands (.inl rfl) (Scalar.fits_float x) stands).1
      rw [stands_float_iff, Value.readUInt64, Except.ok.injEq, @eq_comm Int]
      exact toNat low
  | text text =>
      rw [Value.readUInt64]
      constructor
      · intro read
        split at read
        · rename_i i spelled
          have stands : word64.Stands (.text text) i := .text spelled
          have low := (within_of_stands (.inl rfl) (Scalar.fits_text text) stands).1
          rw [← (toNat low).1 (Except.ok.inj read)]
          exact stands
        · cases read
      · rintro ⟨⟩
        rename_i spelled
        change (Value.switch? text <|> Numeral.uint64? text.toList) = some (m : Int) at spelled
        rw [spelled]
        rfl

theorem readUnsigned_iff {bits m : Nat} :
    Value.readUnsigned bits (.scalar origin content) = .ok m ↔
      word64.Stands content m ∧ m < 2 ^ bits := by
  simp only [Value.readUnsigned, bind_eq_ok_iff, readUInt64_iff]
  constructor
  · rintro ⟨read, stands, kept⟩
    split at kept
    · rename_i small
      cases kept
      exact ⟨stands, small⟩
    · cases kept
  · rintro ⟨stands, small⟩
    exact ⟨m, stands, if_pos small⟩

theorem map_ofNat_eq_ok_iff {outcome : Except Mismatch Nat} :
    outcome.map Int.ofNat = .ok n ↔ ∃ m : Nat, outcome = .ok m ∧ n = m := by
  cases outcome with
  | error mismatch =>
      constructor
      · rintro ⟨⟩
      · rintro ⟨_, ⟨⟩, _⟩
  | ok m =>
      constructor
      · rintro ⟨⟩
        exact ⟨m, rfl, rfl⟩
      · rintro ⟨_, ⟨⟩, rfl⟩
        rfl

theorem arrives_unsigned_iff {width : Width} (unsigned : width.wide = .word64)
    (fits : content.Fits) :
    width.Arrives content n ↔
      ∃ m : Nat, (word64.Stands content m ∧ m ≤ width.greatest) ∧ n = m := by
  rw [Arrives, unsigned]
  constructor
  · rintro ⟨stands, high⟩
    have low : 0 ≤ n := (within_of_stands (.inl rfl) fits stands).1
    obtain ⟨m, rfl⟩ := Int.eq_ofNat_of_zero_le low
    exact ⟨m, ⟨stands, high⟩, rfl⟩
  · rintro ⟨m, arrives, rfl⟩
    exact arrives

theorem read_scalar_iff (fits : content.Fits) {width : Width} :
    width.read (.scalar origin content) = .ok n ↔ width.Arrives content n := by
  have narrow {bits m : Nat} {greatest : Int} (whole : greatest = 2 ^ bits - 1) :
      m < 2 ^ bits ↔ (m : Int) ≤ greatest := by
    rw [whole, Int.le_sub_one_iff]
    norm_cast
  cases width with
  | word16 =>
      rw [Width.read, map_ofNat_eq_ok_iff, arrives_unsigned_iff rfl fits]
      simp only [readUnsigned_iff, @narrow 16 _ (greatest word16) rfl]
  | word32 =>
      rw [Width.read, map_ofNat_eq_ok_iff, arrives_unsigned_iff rfl fits]
      simp only [readUnsigned_iff, @narrow 32 _ (greatest word32) rfl]
  | word64 =>
      rw [Width.read, map_ofNat_eq_ok_iff, arrives_unsigned_iff rfl fits]
      simp only [readUInt64_iff]
      refine exists_congr fun m => and_congr_left fun _ => ?_
      exact ⟨fun stands => ⟨stands, (within_of_stands (.inl rfl) fits stands).2⟩, And.left⟩
  | signed64 =>
      rw [Width.read, readInt64_iff fits]
      exact ⟨fun stands => ⟨stands, (within_of_stands (.inr rfl) fits stands).2⟩, And.left⟩

theorem read_eq_ok_iff {value : Value} (fits : value.Fits) {width : Width} :
    width.read value = .ok n ↔
      ∃ origin content, value = .scalar origin content ∧ width.Arrives content n := by
  cases value with
  | scalar origin content =>
      rw [read_scalar_iff fits.content]
      constructor
      · exact fun arrives => ⟨origin, content, rfl, arrives⟩
      · rintro ⟨_, _, ⟨⟩, arrives⟩
        exact arrives
  | array origin items =>
      constructor
      · cases width <;> rintro ⟨⟩
      · rintro ⟨_, _, ⟨⟩, _⟩
  | table origin entries =>
      constructor
      · cases width <;> rintro ⟨⟩
      · rintro ⟨_, _, ⟨⟩, _⟩

theorem Arrives.within (fits : content.Fits) {width : Width} (arrives : width.Arrives content n) :
    width.least ≤ n ∧ n ≤ width.greatest := by
  have is64 : width.wide = .word64 ∨ width.wide = .signed64 := by cases width <;> decide
  have low := (within_of_stands is64 fits arrives.1).1
  refine ⟨?_, arrives.2⟩
  cases width <;> exact low

end Reading

end Width

/-! ### Loading -/

/-- What comes of the value that was found for a number, or of the lack of one. -/
def NumberKey.Outcome (key : NumberKey) (found : Option Value) (n : Int) : Prop :=
  (found = none ∧ key ≠ .port ∧ n = key.get usual) ∨
    ∃ origin content, found = some (.scalar origin content) ∧ key.width.Arrives content n

theorem NumberKey.outcome_of_reads {key : NumberKey} {found : Option Value} {config : Config}
    (fits : FitsIfAny found) (reads : key.Reads found config) :
    key.Outcome found (key.get config) := by
  cases found with
  | none => exact .inl ⟨rfl, reads⟩
  | some value =>
      rcases reads with ⟨n, read, kept⟩
      rcases (Width.read_eq_ok_iff (fits value rfl)).1 read with ⟨origin, content, rfl, arrives⟩
      have within := arrives.within (fits _ rfl).content
      rw [Width.wrap_eq within.1 within.2] at kept
      rw [kept]
      exact .inr ⟨origin, content, rfl, arrives⟩

/-- The value that gathered settings give for a number. -/
def NumberKey.look (key : NumberKey) (settings : Value) : Option Value :=
  key.area.look settings.asTable.2 key.name

theorem NumberKey.fits_look {key : NumberKey} {settings : Value} (fits : settings.Fits) :
    FitsIfAny (key.look settings) := by
  intro value found
  rcases Option.bind_eq_some_iff.mp found with ⟨record, recordFound, found⟩
  exact Area.fits_find? (Entries.fits_get? fits.asTable.values _ _ recordFound) _ _ found

theorem NumberKey.outcome_integer_iff {key : NumberKey} {origin : Option Origin} {i n : Int} :
    key.Outcome (some (.scalar origin (.integer i))) n ↔
      n = i ∧ key.width.least ≤ i ∧ i ≤ key.width.greatest := by
  have low : key.width.wide.least = key.width.least := by cases key <;> rfl
  constructor
  · rintro (⟨⟨⟩, _⟩ | ⟨_, _, ⟨⟩, stands, high⟩)
    cases stands
    rename_i least
    exact ⟨rfl, low ▸ least, high⟩
  · rintro ⟨rfl, least, high⟩
    exact .inr ⟨origin, _, rfl, .integer (low ▸ least), high⟩

theorem NumberKey.outcome_double {key : NumberKey} {origin : Option Origin} {negative : Bool}
    {significand : Nat} {exponent n : Int}
    (outcome : key.Outcome
      (some (.scalar origin (.float (.finite negative significand exponent)))) n) :
    (n : ℚ) = Binary64.valueRat negative significand exponent ↔
      ∃ i : Int, Binary64.valueRat negative significand exponent = i ∧
        key.width.wide.least ≤ i ∧ i ≤ key.width.wide.greatest := by
  rcases outcome with ⟨⟨⟩, _⟩ | ⟨_, _, ⟨⟩, stands, _⟩
  exact Width.stands_value_iff stands

/-- Where a whole number is written in decimal it is read as that number. -/
structure ReadsExactly (i : Int) : Prop where
  environment : ∀ {text}, Numeral.int64? text.toList = some i →
    Environment.content text = .integer i
  json : ∀ {rest}, Json.Ends rest →
    Json.number? ((toString i).toList ++ rest) = some (.integer i, rest)
  toml : Toml.integer? (toString i).toList = some i
  yaml : Yaml.plain? (toString i) = some (.integer i)

/-- What comes of the whole numbers when a configuration is loaded. -/
structure NumbersArrive (library : Library) (tree : FileTree) (workingDirectory : Location)
    (environment : List (String × String)) (path : Option String) : Prop where
  /-- Each number comes from the value that was found for it. -/
  loaded : ∀ {config}, load library tree workingDirectory environment path = .ok config →
    ∃ located settings, locate tree workingDirectory path = some located ∧
      gather library tree workingDirectory environment located = .ok settings ∧
      ∀ key : NumberKey, key.Outcome (key.look settings) (key.get config)
  /-- Where nothing can come of what was found for a number, there is no configuration. -/
  refused : ∀ {located settings}, locate tree workingDirectory path = some located →
    gather library tree workingDirectory environment located = .ok settings →
    ∀ key : NumberKey, (∀ n, ¬key.Outcome (key.look settings) n) →
      ∃ cause,
        load library tree workingDirectory environment path = .error (.unusable located cause) ∧
        (Error.config (.unusable located cause)).code = "CONFIG_ERROR"
  /-- An integer arrives as it is, or it does not fit and there is no configuration. -/
  integer : ∀ {located settings}, locate tree workingDirectory path = some located →
    gather library tree workingDirectory environment located = .ok settings →
    ∀ (key : NumberKey) {origin i}, key.look settings = some (.scalar origin (.integer i)) →
      (∀ {config}, load library tree workingDirectory environment path = .ok config →
        key.get config = i) ∧
      (¬(key.width.least ≤ i ∧ i ≤ key.width.greatest) →
        ∃ cause,
          load library tree workingDirectory environment path = .error (.unusable located cause))
  /-- A double arrives as it is if and only if it is a whole number of 64 bits. -/
  double : ∀ {located settings config}, locate tree workingDirectory path = some located →
    gather library tree workingDirectory environment located = .ok settings →
    load library tree workingDirectory environment path = .ok config →
    ∀ (key : NumberKey) {origin negative significand exponent},
      key.look settings = some (.scalar origin (.float (.finite negative significand exponent))) →
      ((key.get config : ℚ) = Binary64.valueRat negative significand exponent ↔
        ∃ i : Int, Binary64.valueRat negative significand exponent = i ∧
          key.width.wide.least ≤ i ∧ i ≤ key.width.wide.greatest)
  /-- The one variable that bears on a number gives it. -/
  byVariable : ∀ {located file}, locate tree workingDirectory path = some located →
    File.layer library tree workingDirectory located = .ok file →
    ∀ (key : NumberKey) {name text},
      (∀ given ∈ file.keys, Entries.WellSpelled key.area.title given) →
      Environment.Sole key.area.title key.name (key.area.path key.name) name text environment →
      ∃ settings, gather library tree workingDirectory environment located = .ok settings ∧
        key.look settings = some (.scalar (some .environment) (Environment.content text))
  /-- Without such a variable the only entry that bears on a number in the file gives it. -/
  byFile : ∀ {located file entry}, locate tree workingDirectory path = some located →
    File.layer library tree workingDirectory located = .ok file → entry ∈ file →
    ∀ (key : NumberKey) {origin content},
      Entries.GivesField key.area.title key.name (.scalar origin content) entry →
      (∀ given ∈ file.keys, given ≠ entry.1 → Entries.Apart key.area.title key.name given) →
      Environment.Silent key.area.title key.name environment →
      ∃ settings, gather library tree workingDirectory environment located = .ok settings ∧
        key.look settings = some (.scalar origin content)

theorem reads_exactly {i : Int} (within : Numeral.isInt64 i = true) : ReadsExactly i where
  environment := Environment.content_of_int64?
  json ends := Json.number?_toString within ends
  toml := Toml.integer?_toString within
  yaml := Yaml.plain?_toString within

section Load

variable {library : Library} {tree : FileTree} {workingDirectory : Location}
  {environment : List (String × String)} {path : Option String} {located : String}
  {settings : Value}

theorem outcome_of_load {config : Config}
    (found : locate tree workingDirectory path = some located)
    (gathered : gather library tree workingDirectory environment located = .ok settings)
    (loaded : load library tree workingDirectory environment path = .ok config) (key : NumberKey) :
    key.Outcome (key.look settings) (key.get config) := by
  have readSettings := read_of_load found gathered loaded
  have fits := fits_gather gathered
  rcases gather_eq_ok_iff.1 gathered with ⟨file, _, rfl⟩
  refine NumberKey.outcome_of_reads (NumberKey.fits_look fits) ?_
  exact (Area.reads_of_takes (read_collect_iff.1 readSettings key.area)).2 key rfl

theorem refused_of_no_outcome (found : locate tree workingDirectory path = some located)
    (gathered : gather library tree workingDirectory environment located = .ok settings)
    (key : NumberKey) (none : ∀ n, ¬key.Outcome (key.look settings) n) :
    ∃ cause,
      load library tree workingDirectory environment path = .error (.unusable located cause) := by
  have result := load_eq found gathered
  cases outcome : read settings with
  | error cause => exact ⟨cause, by rw [result, outcome, mapError_error]⟩
  | ok config =>
      rw [outcome, mapError_ok] at result
      exact absurd (outcome_of_load found gathered result key) (none _)

end Load

/-- Whole numbers of 64 bits are read exactly wherever they are written, and each number of a
configuration comes exactly from the value that file and environment give for it, if that is an
integer. -/
theorem numbers_arrive (library : Library) (tree : FileTree) (workingDirectory : Location)
    (environment : List (String × String)) (path : Option String) :
    (∀ i, Numeral.isInt64 i = true → ReadsExactly i) ∧
      NumbersArrive library tree workingDirectory environment path := by
  refine ⟨fun i => reads_exactly, ?_⟩
  constructor
  case loaded =>
    intro config loaded
    rcases load_eq_ok_iff.1 loaded with ⟨located, settings, found, gathered, _⟩
    exact ⟨located, settings, found, gathered, outcome_of_load found gathered loaded⟩
  case refused =>
    intro located settings found gathered key none
    rcases refused_of_no_outcome found gathered key none with ⟨cause, refused⟩
    exact ⟨cause, refused, rfl⟩
  case integer =>
    intro located settings found gathered key origin i looked
    constructor
    · intro config loaded
      have outcome := outcome_of_load found gathered loaded key
      rw [looked] at outcome
      exact (NumberKey.outcome_integer_iff.1 outcome).1
    · intro misfit
      refine refused_of_no_outcome found gathered key fun n outcome => misfit ?_
      rw [looked] at outcome
      exact (NumberKey.outcome_integer_iff.1 outcome).2
  case double =>
    intro located settings config found gathered loaded key origin negative significand exponent
      looked
    have outcome := outcome_of_load found gathered loaded key
    rw [looked] at outcome
    exact NumberKey.outcome_double outcome
  case byVariable =>
    intro located file _ fileRead key name text wellSpelled sole
    exact ⟨_, gather_of_layer fileRead environment,
      Area.look_of_variable key.isSetting wellSpelled sole⟩
  case byFile =>
    intro located file entry _ fileRead given key origin content gives apart silent
    have distinct := (File.fits_layer fileRead).distinct
    exact ⟨_, gather_of_layer fileRead environment,
      Area.look_of_file key.isSetting.isSection distinct given gives apart silent⟩

/-- A port in a file with a variable on top of it. -/
theorem numbers_arrive_port :
    ∃ config,
      load .plain
        (fileAlone "c.toml" "[database]\ncassandra_hosts = 'a'\ncassandra_native = 9042\n") []
        [("FSMTP__DATABASE__CASSANDRA_NATIVE", "9043")] (some "c.toml") = .ok config ∧
      NumberKey.port.get config = 9043 := by
  generalize loads : load _ _ _ _ _ = outcome
  have succeeds : outcome.toOption.isSome = true := by
    rw [← loads]
    decide +kernel
  cases outcome with
  | error fault => cases succeeds
  | ok config =>
      rcases numbers_arrive .plain
        (fileAlone "c.toml" "[database]\ncassandra_hosts = 'a'\ncassandra_native = 9042\n") []
        [("FSMTP__DATABASE__CASSANDRA_NATIVE", "9043")] (some "c.toml") with ⟨exactly, arrive⟩
      rcases load_eq_ok_iff.1 loads with ⟨located, settings, ⟨⟩, gathered, _⟩
      rcases gather_eq_ok_iff.1 gathered with ⟨file, fileRead, _⟩
      have keys : file.keys = ["database"] := by
        have read := congrArg (fun layer => layer.toOption.map Entries.keys) fileRead
        refine (Option.some.inj (read.symm.trans ?_))
        decide +kernel
      have sole : Environment.Sole "database" "cassandra_native" "database.cassandra_native"
          "FSMTP__DATABASE__CASSANDRA_NATIVE" "9043"
          [("FSMTP__DATABASE__CASSANDRA_NATIVE", "9043")] := by
        refine ⟨List.mem_singleton_self _, by decide +kernel, ?_⟩
        intro entry member other
        exact absurd (List.mem_singleton.mp member) other
      have spelled : ∀ given ∈ file.keys, Entries.WellSpelled "database" given := by
        rw [keys]
        intro given member _
        obtain rfl := List.mem_singleton.mp member
        exact .inl (by decide)
      rcases arrive.byVariable rfl fileRead .port spelled sole with
        ⟨_, gatheredToo, looked⟩
      have number := (exactly 9043 (by decide)).environment
        (by decide +kernel : Numeral.int64? "9043".toList = some 9043)
      rw [number] at looked
      exact ⟨config, rfl, (arrive.integer rfl gatheredToo .port looked).1 loads⟩

/-- A port that is no integer is rounded, and the configuration is loaded all the same. -/
theorem fraction_arrives_rounded :
    ∃ config,
      load .plain
        (fileAlone "c.toml" "[database]\ncassandra_hosts = 'a'\ncassandra_native = 9042.5\n") []
        [] (some "c.toml") = .ok config ∧
      config.database.port = 9043 := by
  generalize loads : load _ _ _ _ _ = outcome
  have port : outcome.toOption.map (fun config => config.database.port) = some 9043 := by
    rw [← loads]
    decide +kernel
  cases outcome with
  | error fault => cases port
  | ok config => exact ⟨config, rfl, Option.some.inj port⟩

end Config

end MailProvision
