/-!
# Table definitions

A table of the keyspace as data: its columns, the columns that choose the partition, and the columns
that order the rows inside one. `Table.definition` writes the statement that creates the table
unless it exists.
-/

namespace MailProvision

/-- The types of columns. -/
inductive ColumnType where
  | bigint
  | boolean
  | double
  | int
  | text
  | timeuuid
  | tinyint
  | varchar
deriving DecidableEq, Repr

namespace ColumnType

/-- The name of a type in the query language. -/
def keyword : ColumnType → String
  | bigint => "BIGINT"
  | boolean => "BOOLEAN"
  | double => "DOUBLE"
  | int => "INT"
  | text => "TEXT"
  | timeuuid => "TIMEUUID"
  | tinyint => "TINYINT"
  | varchar => "VARCHAR"

end ColumnType

/-- How the rows of a partition are ordered. -/
inductive RowOrder where
  /-- As the store does by itself. -/
  | natural
  /-- By every clustering column, the greatest value first. -/
  | descending
deriving DecidableEq, Repr

/-- A table: a name, columns with types, and the two parts of its primary key. -/
structure Table where
  name : String
  columns : List (String × ColumnType)
  partitionKey : String
  clusteringKey : List String
  order : RowOrder
deriving DecidableEq, Repr

namespace Table

/-- The primary key clause. The partition key has brackets of its own where the order is given. -/
def primaryKey (table : Table) : String :=
  let partition :=
    match table.order with
    | .natural => table.partitionKey
    | .descending => "(" ++ table.partitionKey ++ ")"
  "PRIMARY KEY (" ++ ", ".intercalate (partition :: table.clusteringKey) ++ ")"

/-- The clause after the columns that gives the order of rows. -/
def orderClause (table : Table) : String :=
  match table.order with
  | .natural => ""
  | .descending =>
      " WITH CLUSTERING ORDER BY (" ++
        ", ".intercalate (table.clusteringKey.map (· ++ " DESC")) ++ ")"

/-- The statement that creates the table in a keyspace unless it is there. -/
def definition (table : Table) (keyspace : String) : String :=
  let columns :=
    table.columns.map fun column => "  " ++ column.1 ++ " " ++ column.2.keyword ++ ",\n"
  "CREATE TABLE IF NOT EXISTS " ++ keyspace ++ "." ++ table.name ++ " (\n" ++
    String.join columns ++ "  " ++ table.primaryKey ++ "\n)" ++ table.orderClause

end Table

end MailProvision
