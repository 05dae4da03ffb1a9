/-!
# Operations

The operations a descriptor can ask for, with their names in descriptors and messages.
-/

namespace FilterSql

/-- An operation on a table. -/
inductive Exec where
  | find
  | read
  | list
  | count
  | check
  | insert
  | update
  | remove
  | drop
  | truncate
  | scalar
  | query
  deriving DecidableEq, Repr

namespace Exec

def all : List Exec :=
  [find, read, list, count, check, insert, update, remove, drop, truncate, scalar, query]

def name : Exec → String
  | find => "find"
  | read => "read"
  | list => "list"
  | count => "count"
  | check => "check"
  | insert => "insert"
  | update => "update"
  | remove => "remove"
  | drop => "drop"
  | truncate => "truncate"
  | scalar => "scalar"
  | query => "query"

def ofName? (s : String) : Option Exec :=
  all.find? (·.name = s)

/-- Whether the rows come in an order and by pages. -/
def isPaged : Exec → Bool
  | find | read | list | query => true
  | _ => false

end Exec

/-- An aggregate function, or a value for each group. -/
inductive Aggregate where
  | avg
  | min
  | max
  | sum
  | count
  | group
  deriving DecidableEq, Repr

namespace Aggregate

def all : List Aggregate := [avg, min, max, sum, count, group]

def name : Aggregate → String
  | avg => "avg"
  | min => "min"
  | max => "max"
  | sum => "sum"
  | count => "count"
  | group => "group"

def sql : Aggregate → String
  | avg => "AVG"
  | min => "MIN"
  | max => "MAX"
  | sum => "SUM"
  | count => "COUNT"
  | group => "GROUP"

def ofName? (s : String) : Option Aggregate :=
  all.find? (·.name = s)

end Aggregate

end FilterSql
