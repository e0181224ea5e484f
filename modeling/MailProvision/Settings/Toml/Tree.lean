import MailProvision.Settings.Value

/-!
# Tables under construction

While a file is read its tables are kept with a note of how each one came about, since that decides
what later lines may add to it: a header opens a table once, and may open one that was only passed
through; dotted keys go through tables that they or a header's path made, but not through one that a
header opened. These are the rules of the `toml` package.
-/

namespace MailProvision

namespace Settings

namespace Toml

/-- How a table came about. -/
inductive Making where
  /-- By the path of a header that goes further. -/
  | passed
  /-- By a header of its own. -/
  | opened
  /-- By a dotted key. -/
  | dotted
deriving DecidableEq, Repr

/-- A value, a table that lines can still add to, or a list of such tables. -/
inductive Node where
  | leaf (value : Value)
  | table (making : Making) (entries : List (String × Node))
  | tables (items : List Node)

namespace Node

/-- A table without entries. -/
def fresh (making : Making) : Node :=
  table making []

/-- Replaces the node under a key, or adds one; the change may refuse. -/
def alterNode? (key : String) (change : Option Node → Option Node) :
    List (String × Node) → Option (List (String × Node))
  | [] => (change none).map fun node => [(key, node)]
  | (name, node) :: rest =>
      if name = key then (change (some node)).map fun changed => (name, changed) :: rest
      else (alterNode? key change rest).map fun others => (name, node) :: others

/-- Changes the last item of a list. -/
def alterLast? (change : Node → Option Node) : List Node → Option (List Node)
  | [] => none
  | [last] => (change last).map fun changed => [changed]
  | first :: rest => (alterLast? change rest).map fun others => first :: others

/-- Changes what lies under the header path, making tables on the way. -/
def alterUnder? (change : Node → Option Node) : List String → Node → Option Node
  | [], node => change node
  | key :: rest, node =>
      match node with
      | table making entries =>
          (alterNode? key (fun present =>
            match present with
            | none => alterUnder? change rest (fresh .passed)
            | some (tables items) =>
                (alterLast? (alterUnder? change rest) items).map tables
            | some node => alterUnder? change rest node) entries).map (table making)
      | _ => none

/-- Opens the table that a header names by its last key. -/
def openTable? (key : String) : Node → Option Node
  | table making entries =>
      (alterNode? key (fun present =>
        match present with
        | none => some (fresh .opened)
        | some (table .passed old) => some (table .opened old)
        | some _ => none) entries).map (table making)
  | _ => none

/-- Adds a table to the list that a header names by its last key. -/
def addTable? (key : String) : Node → Option Node
  | table making entries =>
      (alterNode? key (fun present =>
        match present with
        | none => some (tables [fresh .opened])
        | some (tables items) => some (tables (items ++ [fresh .opened]))
        | some _ => none) entries).map (table making)
  | _ => none

/-- Sets a value by a dotted key, which must be new. -/
def setDotted? (leafNode : Node) : List String → Node → Option Node
  | [], _ => none
  | [key], table making entries =>
      (alterNode? key (fun present =>
        match present with
        | none => some leafNode
        | some _ => none) entries).map (table making)
  | key :: rest, table making entries =>
      (alterNode? key (fun present =>
        match present with
        | none => setDotted? leafNode rest (fresh .dotted)
        | some (table .opened _) => none
        | some node => setDotted? leafNode rest node) entries).map (table making)
  | _, _ => none

mutual

/-- The finished value. -/
def toValue (origin : Origin) : Node → Value
  | leaf value => value
  | table _ entries => .table origin (toEntries origin entries)
  | tables items => .array origin (toItems origin items)

/-- The finished entries of a table. -/
def toEntries (origin : Origin) : List (String × Node) → Entries
  | [] => []
  | (key, node) :: rest => (key, toValue origin node) :: toEntries origin rest

/-- The finished tables of a list. -/
def toItems (origin : Origin) : List Node → List Value
  | [] => []
  | node :: rest => toValue origin node :: toItems origin rest

end

end Node

/-- A document under construction: the tree, and the header whose table takes the next keys. -/
structure Document where
  root : Node
  header : List String

namespace Document

/-- A document without lines. -/
def empty : Document :=
  { root := Node.fresh .opened, header := [] }

/-- A header in single brackets. -/
def openHeader? (document : Document) (path : List String) : Option Document :=
  match path.getLast? with
  | none => none
  | some key =>
      (Node.alterUnder? (Node.openTable? key) path.dropLast document.root).map fun root =>
        { root, header := path }

/-- A header in double brackets. -/
def addHeader? (document : Document) (path : List String) : Option Document :=
  match path.getLast? with
  | none => none
  | some key =>
      (Node.alterUnder? (Node.addTable? key) path.dropLast document.root).map fun root =>
        { root, header := path }

/-- A key with a value. -/
def set? (document : Document) (path : List String) (value : Value) : Option Document :=
  (Node.alterUnder? (Node.setDotted? (.leaf value) path) document.header document.root).map
    fun root => { document with root }

end Document

end Toml

end Settings

end MailProvision
