import MailProvision.Settings.Value

/-!
# The order of keys

A table has no order of its own: the `config` package keeps tables in hash maps, and takes up their
entries in an order that differs from run to run. Here such an order is a rank for each key of each
table, and `Value.arrange` puts the entries of a value in that order. Items of arrays stay where
they are.
-/

namespace MailProvision

namespace Settings

/-- The order of the keys in the tables of a value: the keys that lead to a table, and the rank of a
key in it. -/
abbrev Order := List String → String → Nat

namespace Order

/-- The order as it is written. -/
def written : Order :=
  fun _ _ => 0

/-- The order in what stands under a key. -/
def below (order : Order) (key : String) : Order :=
  fun above => order (key :: above)

end Order

/-- Puts an entry before the first one that does not come before it. -/
def Entries.insert (rank : String → Nat) (entry : String × Value) : Entries → Entries
  | [] => [entry]
  | first :: rest =>
      if rank entry.1 ≤ rank first.1 then entry :: first :: rest
      else first :: Entries.insert rank entry rest

mutual

/-- The value with its entries in order. -/
def Value.arrange (order : Order) : Value → Value
  | .table origin entries => .table origin (Entries.arrange order entries)
  | .scalar origin content => .scalar origin content
  | .array origin items => .array origin items

/-- Entries in order, each with its own entries in order. -/
def Entries.arrange (order : Order) : List (String × Value) → List (String × Value)
  | [] => []
  | (key, value) :: rest =>
      Entries.insert (order []) (key, value.arrange (order.below key)) (Entries.arrange order rest)

end

end Settings

end MailProvision
