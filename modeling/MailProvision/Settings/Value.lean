import MailProvision.Numeral.Reading
import MailProvision.Numeral.Shortest
import MailProvision.Text.Quoted

/-!
# Settings as data

A settings value is a scalar, an array or a table, with a note of where it was written. Tables keep
their entries in the order in which the keys first appeared; a key appears once. `Value.Fits` says
so, and that integers have 64 bits with a sign, as the `config` package stores them.
-/

namespace MailProvision

namespace Settings

/-- Where a value was written. -/
inductive Origin where
  | file (name : String)
  | environment
deriving DecidableEq, Repr

namespace Origin

/-- The origin as messages name it. -/
def describe : Origin → String
  | file name => name
  | environment => "the environment"

end Origin

/-- A value without parts. -/
inductive Scalar where
  | nil
  | boolean (value : Bool)
  | integer (value : Int)
  | float (value : Binary64)
  | text (value : String)
deriving DecidableEq, Repr

/-- A value of a settings file or of the environment. -/
inductive Value where
  | scalar (origin : Option Origin) (content : Scalar)
  | array (origin : Option Origin) (items : List Value)
  | table (origin : Option Origin) (entries : List (String × Value))
deriving Repr

/-- The entries of a table. -/
abbrev Entries := List (String × Value)

namespace Value

/-- Nothing, written nowhere. -/
def nil : Value :=
  scalar none .nil

/-- A table without entries, written nowhere. -/
def emptyTable : Value :=
  table none []

/-- Where the value was written, if it was written as it stands. -/
def origin : Value → Option Origin
  | scalar origin _ => origin
  | array origin _ => origin
  | table origin _ => origin

/-- Whether the value is a table. -/
def isTable : Value → Bool
  | table .. => true
  | _ => false

end Value

namespace Entries

/-- The value under a key. -/
def get? (entries : Entries) (key : String) : Option Value :=
  entries.lookup key

/-- Gives the value under a key to a function and keeps what it returns in its place; a new key goes
to the end. -/
def alter (key : String) (change : Option Value → Value) : Entries → Entries
  | [] => [(key, change none)]
  | (name, value) :: rest =>
      if name = key then (name, change (some value)) :: rest
      else (name, value) :: alter key change rest

/-- Puts a value under a key. -/
def put (key : String) (value : Value) (entries : Entries) : Entries :=
  entries.alter key fun _ => value

/-- The keys of a table in their order. -/
def keys (entries : Entries) : List String :=
  entries.map Prod.fst

end Entries

/-- If the scalar is an integer, it fits into 64 bits. -/
def Scalar.Fits (content : Scalar) : Prop :=
  ∀ i, content = .integer i → Numeral.isInt64 i = true

/-- Every integer in the value fits into 64 bits, and every table in it has each key once. -/
inductive Value.Fits : Value → Prop
  | scalar {origin : Option Origin} {content : Scalar} (fits : content.Fits) :
      Fits (.scalar origin content)
  | array {origin : Option Origin} {items : List Value} (fits : ∀ item ∈ items, Fits item) :
      Fits (.array origin items)
  | table {origin : Option Origin} {entries : Entries} (fits : ∀ entry ∈ entries, Fits entry.2)
      (distinct : entries.keys.Nodup) : Fits (.table origin entries)

/-- The values of a table fit, and it has each of its keys once. -/
structure Entries.Fits (entries : Entries) : Prop where
  values : ∀ entry ∈ entries, entry.2.Fits
  distinct : entries.keys.Nodup

/-- One step into a value: a key of a table or a place in an array. -/
inductive Step where
  | key (name : String)
  | index (position : Nat)
deriving DecidableEq, Repr

namespace Step

/-- The steps from the root as messages write them. -/
def describe : List Step → String
  | [] => ""
  | .key name :: rest => name ++ describeRest rest
  | .index position :: rest => "[" ++ toString position ++ "]" ++ describeRest rest
where
  /-- The steps after the first one. -/
  describeRest : List Step → String
    | [] => ""
    | .key name :: rest => "." ++ name ++ describeRest rest
    | .index position :: rest => "[" ++ toString position ++ "]" ++ describeRest rest

end Step

end Settings

end MailProvision
