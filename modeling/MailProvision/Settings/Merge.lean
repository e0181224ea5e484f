import MailProvision.Numeral.Reading
import MailProvision.Settings.Order
import MailProvision.Text.Lowercase

/-!
# Merging settings

A key is a path: identifiers joined by dots, with array places in brackets. `Entries.collect` sets
the entries of several layers one after the other, so that later layers win key by key: a table is
merged into the table that is there, any other value takes the place of the old one. Keys are
written in small letters on the way. So the `config` package merges in its version 0.14.
-/

namespace MailProvision

namespace Settings

/-- One step of a key path. A negative place counts from the end of the array. -/
inductive PathStep where
  | key (name : String)
  | place (index : Int)
deriving DecidableEq, Repr

namespace KeyPath

/-- The characters of identifiers. -/
def isIdentifierChar (c : Char) : Bool :=
  ('a' ≤ c && c ≤ 'z') || ('A' ≤ c && c ≤ 'Z') || ('0' ≤ c && c ≤ '9') || c = '_' || c = '-' ||
    c = ' '

/-- Splits a nonempty identifier off the front. -/
def identifier? (chars : List Char) : Option (String × List Char) :=
  match chars.takeWhile isIdentifierChar with
  | [] => none
  | name => some (String.ofList name, chars.dropWhile isIdentifierChar)

/-- Blanks around the number in brackets. -/
def isSpace (c : Char) : Bool :=
  c = ' ' || c = '\t' || c = '\n' || c = '\r'

/-- Splits a number and the closing bracket off the front. -/
def place? (chars : List Char) : Option (Int × List Char) :=
  let start := chars.dropWhile isSpace
  let (negative, unsigned) := Numeral.splitSign start
  let digits := unsigned.takeWhile fun c => (Numeral.digit? c).isSome
  let rest := (unsigned.dropWhile fun c => (Numeral.digit? c).isSome).dropWhile isSpace
  match Numeral.nat? digits, rest with
  | some n, ']' :: after => some (if negative then -(n : Int) else n, after)
  | _, _ => none

/-- The steps after the first identifier. The first argument bounds their number. -/
def steps? : Nat → List Char → Option (List PathStep)
  | _, [] => some []
  | 0, _ => none
  | limit + 1, '.' :: rest => do
      let (name, after) ← identifier? rest
      return .key name :: (← steps? limit after)
  | limit + 1, '[' :: rest => do
      let (index, after) ← place? rest
      return .place index :: (← steps? limit after)
  | _, _ => none

/-- Reads a key as a path; `none` if it is none. -/
def parse? (key : String) : Option (List PathStep) := do
  let chars := key.toList
  let (name, after) ← identifier? chars
  return .key name :: (← steps? chars.length after)

end KeyPath

namespace Value

/-- The entries of a table; anything else counts as an empty table written nowhere. -/
def asTable : Value → Option Origin × Entries
  | table origin entries => (origin, entries)
  | _ => (none, [])

/-- The items of an array; anything else counts as an empty array written nowhere. -/
def asArray : Value → Option Origin × List Value
  | array origin items => (origin, items)
  | _ => (none, [])

mutual

/-- Sets a value under a key, in small letters, of what has to become a table. A table is merged
entry by entry into the value that is there. -/
def setKey (key : String) (target : Value) : Value → Value
  | table _ entries =>
      let (origin, old) := target.asTable
      table origin (old.alter (Text.lower key) fun present =>
        setEntries (present.getD emptyTable) entries)
  | scalar source content =>
      let (origin, old) := target.asTable
      table origin (old.put (Text.lower key) (scalar source content))
  | array source items =>
      let (origin, old) := target.asTable
      table origin (old.put (Text.lower key) (array source items))

/-- Sets entries one after the other. -/
def setEntries (target : Value) : List (String × Value) → Value
  | [] => target
  | (key, value) :: rest => setEntries (setKey key target value) rest

end

/-- The place meant by an index in an array of the given length. -/
def placeOf (length : Nat) (index : Int) : Nat :=
  if 0 ≤ index then index.toNat else length - (-index).toNat

/-- Changes the item at a place, after filling the array up to it. -/
def alterPlace (index : Int) (change : Value → Value) (target : Value) : Value :=
  let (origin, items) := target.asArray
  let place := placeOf items.length index
  let filled := items ++ List.replicate (place + 1 - items.length) nil
  array origin (filled.modify place change)

/-- Follows steps, turning what is there into tables and arrays as they demand, and sets a value at
the end. Keys on the way keep their spelling, the last one is written in small letters. -/
def setPath (value : Value) : List PathStep → Value → Value
  | [], _ => value
  | [.key name], target => setKey name target value
  | .key name :: rest, target =>
      let (origin, old) := target.asTable
      table origin (old.alter name fun present => setPath value rest (present.getD nil))
  | .place index :: rest, target => alterPlace index (setPath value rest) target

/-- Sets a value under a key of the root: along the path that the key spells, or under the key as it
is if it spells none. -/
def set (root : Value) (key : String) (value : Value) : Value :=
  match KeyPath.parse? key with
  | some steps => setPath value steps root
  | none => setKey key root value

end Value

namespace Entries

/-- Sets entries in a root one after the other. -/
def setAll (root : Value) (entries : Entries) : Value :=
  entries.foldl (fun root entry => root.set entry.1 entry.2) root

/-- The tables of several layers as one. The layers are set in order into one table, whose entries
are then set once more, in an order that the library chooses, so that keys spelled as paths end in
small letters too. -/
def collect (order : Order) (layers : List Entries) : Value :=
  let gathered := layers.foldl setAll .emptyTable
  setAll .emptyTable (arrange order gathered.asTable.2)

end Entries

end Settings

end MailProvision
