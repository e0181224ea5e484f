import MailProvision.Settings.Value

/-!
# Settings of the wrong shape

What is reported when a value cannot be read as what its place demands, in the words of the `serde`
package. A mismatch inside a record gathers the steps that lead to it on its way out.
-/

namespace MailProvision

namespace Settings

/-- The kind of a value, with its content where that is short. -/
inductive Found where
  | boolean (value : Bool)
  | integer (value : Int)
  | unsigned (value : Nat)
  | float (value : Binary64)
  | text (value : String)
  | unit
  | sequence
  | map
deriving DecidableEq, Repr

namespace Found

/-- The kind of a value. -/
def ofValue : Value → Found
  | .scalar _ .nil => unit
  | .scalar _ (.boolean value) => boolean value
  | .scalar _ (.integer value) => integer value
  | .scalar _ (.float value) => float value
  | .scalar _ (.text value) => text value
  | .array .. => sequence
  | .table .. => map

/-- A text between backticks. -/
def ticked (text : String) : String :=
  "`" ++ text ++ "`"

/-- The words for a truth value. -/
def boolText (value : Bool) : String :=
  if value then "true" else "false"

/-- What was found, with the width of integers. -/
def describe : Found → String
  | boolean value => "boolean " ++ ticked (boolText value)
  | integer value => "64-bit integer " ++ ticked (toString value)
  | unsigned value => "64-bit unsigned integer " ++ ticked (toString value)
  | float value => "floating point " ++ ticked value.toText
  | text value => "string " ++ Quoted.encode value
  | unit => "unit value"
  | sequence => "sequence"
  | map => "map"

/-- A float with a point even where it is whole. -/
def pointedText (value : Binary64) : String :=
  let text := value.toText
  if '.' ∈ text.toList then text else text ++ ".0"

/-- What was found where a record was wanted. -/
def describeForRecord : Found → String
  | integer value => "integer " ++ ticked (toString value)
  | unsigned value => "integer " ++ ticked (toString value)
  | float value => "floating point " ++ ticked (pointedText value)
  | found => found.describe

end Found

/-- Why a value cannot be read. -/
inductive Mismatch where
  /-- A value of another type than its place demands. -/
  | wrongType (found : Found) (expected : String) (path : List Step) (origin : Option Origin)
  /-- Neither a table nor an array where a record was wanted. -/
  | notARecord (found : Found) (record : String)
  | missingField (name : String)
  /-- An array with fewer items than the record has fields without a default. -/
  | wrongLength (length : Nat) (record : String) (fields : Nat)
deriving DecidableEq, Repr

namespace Mismatch

/-- The mismatch seen from one step further out. -/
def prepend (step : Step) : Mismatch → Mismatch
  | wrongType found expected path origin => wrongType found expected (step :: path) origin
  | mismatch => mismatch

/-- The words for where a value was written. -/
def originText : Option Origin → String
  | none => ""
  | some origin => " in " ++ origin.describe

/-- The words for the place of a value. -/
def pathText : List Step → String
  | [] => ""
  | path => " for key " ++ Found.ticked (Step.describe path)

/-- The mismatch in words. -/
def message : Mismatch → String
  | wrongType found expected path origin =>
      "invalid type: " ++ found.describe ++ ", expected " ++ expected ++ pathText path ++
        originText origin
  | notARecord found record =>
      "invalid type: " ++ found.describeForRecord ++ ", expected struct " ++ record
  | missingField name => "missing field " ++ Found.ticked name
  | wrongLength length record fields =>
      "invalid length " ++ toString length ++ ", expected struct " ++ record ++ " with " ++
        toString fields ++ " elements"

end Mismatch

end Settings

end MailProvision
