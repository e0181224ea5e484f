import MailProvision.Cluster.Connector

/-!
# A cluster in memory

A cluster that remembers which keyspaces and tables were created and how many rows each table has.
It understands the three kinds of statements that a mail schema is made of. Names and row counts
are kept in ascending order.

`MemoryCluster.connector` adds what can go wrong in one run: a refused connection, and faults at
given calls.
-/

namespace MailProvision

/-- The state of a cluster in memory. -/
structure MemoryCluster where
  keyspaces : List String := []
  tables : List String := []
  /-- The number of rows of each table that has any. -/
  rows : List (String × Nat) := []
  /-- The number of calls that were answered. -/
  executed : Nat := 0
  openSessions : Nat := 0
  connects : Nat := 0
deriving DecidableEq, Repr

/-- What happens to one call of a session instead of, or before, its usual effect. -/
structure CallFault where
  call : Nat
  hangs : Bool := false
  delay : Duration := ⟨0⟩
  /-- The chain of reasons with which the call is refused, if it is. -/
  refusal : Option (List String) := none
deriving DecidableEq, Repr

namespace MemoryCluster

/-- Adds a name to an ascending list unless it is there. -/
def insertName (name : String) : List String → List String
  | [] => [name]
  | first :: rest =>
      if name = first then first :: rest
      else if name < first then name :: first :: rest
      else first :: insertName name rest

/-- Adds a row to the count of a table in an ascending list. -/
def addRow (table : String) : List (String × Nat) → List (String × Nat)
  | [] => [(table, 1)]
  | (name, count) :: rest =>
      if table = name then (name, count + 1) :: rest
      else if table < name then (table, 1) :: (name, count) :: rest
      else (name, count) :: addRow table rest

/-- The text after a given beginning. -/
def afterPrefix? (beginning : String) (chars : List Char) : Option (List Char) :=
  if beginning.toList.isPrefixOf chars then some (chars.drop beginning.length) else none

/-- The name at the front of a text: everything before white space or a bracket. -/
def objectName (chars : List Char) : String :=
  String.ofList (chars.takeWhile fun c => !Text.isBlank c && c ≠ '(')

/-- The keyspace of a table: the part of its name before the first dot. -/
def keyspaceOf (table : String) : String :=
  String.ofList (table.toList.takeWhile (· ≠ '.'))

/-- The effect of a statement, or the reason why it is refused. -/
def apply (cluster : MemoryCluster) (text : String) : Except String MemoryCluster :=
  let chars := text.toList
  match afterPrefix? "CREATE KEYSPACE IF NOT EXISTS " chars with
  | some rest =>
      .ok { cluster with keyspaces := insertName (objectName rest) cluster.keyspaces }
  | none =>
      match afterPrefix? "CREATE TABLE IF NOT EXISTS " chars with
      | some rest =>
          let table := objectName rest
          if keyspaceOf table ∈ cluster.keyspaces then
            .ok { cluster with tables := insertName table cluster.tables }
          else .error ("Keyspace '" ++ keyspaceOf table ++ "' does not exist")
      | none =>
          match afterPrefix? "INSERT INTO " chars with
          | some rest =>
              let table := objectName rest
              if table ∈ cluster.tables then
                .ok { cluster with rows := addRow table cluster.rows }
              else .error ("unconfigured table " ++ table)
          | none => .error "unsupported statement"

/-- The answer to a statement that is not refused for a fault: its effect, or the reason against
it. -/
def respond (cluster : MemoryCluster) (delay : Duration) (text : String) : Answer MemoryCluster :=
  match cluster.apply text with
  | .ok after => { delay, refusal := none, state := after }
  | .error reason => { delay, refusal := some [reason], state := cluster }

/-- The reaction to a call that a fault may disturb. -/
def react (cluster : MemoryCluster) (fault : CallFault) (text : String) : Reaction MemoryCluster :=
  let answered := { cluster with executed := cluster.executed + 1 }
  let answer? :=
    if fault.hangs then none
    else
      match fault.refusal with
      | some chain => some { delay := fault.delay, refusal := some chain, state := answered }
      | none => some (answered.respond fault.delay text)
  { received := cluster, answer := answer? }

/-- The cluster's connector in a run with a refusal and faults; of several faults for one call the
first counts. -/
def connector (refusal : Option String) (faults : List CallFault) : Connector MemoryCluster where
  connect _ cluster :=
    match refusal with
    | some reason => { events := [], state := cluster, refusal := some reason }
    | none =>
        { events := []
          state :=
            { cluster with
              connects := cluster.connects + 1
              openSessions := cluster.openSessions + 1 }
          refusal := none }
  execute call text cluster :=
    cluster.react ((faults.find? fun fault => fault.call = call).getD { call }) text
  release cluster := { cluster with openSessions := cluster.openSessions - 1 }

end MemoryCluster

end MailProvision
