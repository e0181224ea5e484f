import MailProvision.Numeral.Reading
import MailProvision.Settings.Mismatch
import MailProvision.Text.Lowercase

/-!
# Reading settings as typed data

Scalars are read leniently: numbers and truth values where a text is wanted, texts and fractions
where an integer is wanted. A record is a table that gives its fields by name, or an array that
gives them by position. The conversions are those of the `config` package, the records those of
`serde`.
-/

namespace MailProvision

namespace Settings

/-- Reads a value as data, or says why that cannot be. -/
abbrev Reader (α : Type) := Value → Except Mismatch α

namespace Value

/-- A mismatch at the value itself. -/
def mismatch (value : Value) (expected : String) : Mismatch :=
  .wrongType (Found.ofValue value) expected [] value.origin

/-- A scalar other than nil as text. -/
def readText : Reader String
  | .scalar _ (.text text) => .ok text
  | .scalar _ (.boolean value) => .ok (Found.boolText value)
  | .scalar _ (.integer value) => .ok (toString value)
  | .scalar _ (.float value) => .ok value.toText
  | value => .error (value.mismatch "a string")

/-- The words that stand for one and for zero where an integer is wanted. -/
def switch? (text : String) : Option Int :=
  match Text.lower text with
  | "true" | "on" | "yes" => some 1
  | "false" | "off" | "no" => some 0
  | _ => none

/-- An integer of the signed 64-bit range. -/
def readInt64 : Reader Int
  | .scalar _ (.integer i) => .ok i
  | .scalar _ (.boolean b) => .ok (if b then 1 else 0)
  | .scalar _ (.float x) => .ok (x.toIntWithin (-9223372036854775808) 9223372036854775807)
  | .scalar origin (.text text) =>
      match switch? text <|> Numeral.int64? text.toList with
      | some i => .ok i
      | none => .error (.wrongType (.text text) "an integer" [] origin)
  | value => .error (value.mismatch "an integer")

/-- An integer of the unsigned 64-bit range. -/
def readUInt64 : Reader Nat
  | .scalar origin (.integer i) =>
      if 0 ≤ i then .ok i.toNat
      else .error (.wrongType (.integer i) "an unsigned 64 bit or less integer" [] origin)
  | .scalar _ (.boolean b) => .ok (if b then 1 else 0)
  | .scalar _ (.float x) => .ok (x.toIntWithin 0 18446744073709551615).toNat
  | .scalar origin (.text text) =>
      match switch? text <|> Numeral.uint64? text.toList with
      | some i => .ok i.toNat
      | none => .error (.wrongType (.text text) "an integer" [] origin)
  | value => .error (value.mismatch "an integer")

/-- An integer below `2 ^ bits`. -/
def readUnsigned (bits : Nat) : Reader Nat := fun value => do
  let n ← value.readUInt64
  let expected := "an unsigned " ++ toString bits ++ " bit integer"
  if n < Nat.pow 2 bits then .ok n else .error (.wrongType (.unsigned n) expected [] none)

/-- Nothing for nil, and otherwise what the reader gives. -/
def readOption {α : Type} (reader : Reader α) : Reader (Option α)
  | .scalar _ .nil => .ok none
  | value => (reader value).map some

end Value

/-- The fields that a value gives for a record. -/
inductive Fields where
  | named (entries : Entries)
  | positional (items : List Value)

/-- A record: what its fields are called in order, and the name messages use for it. -/
structure RecordShape where
  name : String
  fields : List String

namespace RecordShape

/-- The fields that a value gives for the record. -/
def fieldsOf (shape : RecordShape) : Reader Fields
  | .table _ entries => .ok (.named entries)
  | .array _ items => .ok (.positional items)
  | value => .error (.notARecord (Found.ofValue value) shape.name)

/-- The value of a field and the step that leads to it. -/
def locate? (shape : RecordShape) (fields : Fields) (field : String) : Option (Step × Value) :=
  match fields with
  | .named entries => (entries.get? field).map fun value => (.key field, value)
  | .positional items =>
      let position := shape.fields.idxOf field
      items[position]?.map fun value => (.index position, value)

/-- Reads a field, if it is given. -/
def read? {α : Type} (shape : RecordShape) (fields : Fields) (field : String)
    (reader : Reader α) : Except Mismatch (Option α) :=
  match shape.locate? fields field with
  | none => .ok none
  | some (step, value) => ((reader value).map some).mapError (·.prepend step)

/-- Refuses a record without a field. -/
def require {α : Type} (shape : RecordShape) (fields : Fields) (field : String)
    (given : Option α) : Except Mismatch α :=
  match given, fields with
  | some value, _ => .ok value
  | none, .named _ => .error (.missingField field)
  | none, .positional _ =>
      .error (.wrongLength (shape.fields.idxOf field) shape.name shape.fields.length)

/-- Takes an optional field that is not given by name for absent; by position it has to be there. -/
def allow {α : Type} (shape : RecordShape) (fields : Fields) (field : String)
    (given : Option (Option α)) : Except Mismatch (Option α) :=
  match given, fields with
  | some value, _ => .ok value
  | none, .named _ => .ok none
  | none, .positional _ =>
      .error (.wrongLength (shape.fields.idxOf field) shape.name shape.fields.length)

end RecordShape

end Settings

end MailProvision
