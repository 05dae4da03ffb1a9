import FilterSql.Engine
import FilterSql.Postgres.Argument
import FilterSql.Postgres.Row

/-!
# Executing on PostgreSQL

A statement with output parameters is refused. Any other one is sent with its arguments, and its
rows are fetched where the statement reads or gives columns back; else only the number of affected
rows is asked for. What the connection answers is a parameter here.
-/

namespace FilterSql

/-- An error of the database driver. -/
inductive DriverError where
  | poolTimedOut
  | poolClosed
  | io (reason : String)
  | database (reason : String)
  | rowNotFound
  | columnNotFound (name : String)
  | protocol (reason : String)
  | workerCrashed
  | configuration (reason : String)
  | tls (reason : String)
  | typeNotFound (name : String)
  | decode (reason : String)
  deriving DecidableEq, Repr

namespace DriverError

def message : DriverError → String
  | poolTimedOut => "pool timed out while waiting for an open connection"
  | poolClosed => "attempted to acquire a connection on a closed pool"
  | io reason => "error communicating with database: " ++ reason
  | database reason => reason
  | rowNotFound => "no rows returned by a query that expected to return at least one row"
  | columnNotFound name => "no column found for name: " ++ name
  | protocol reason => "encountered unexpected or invalid data: " ++ reason
  | workerCrashed => "attempted to communicate with a crashed background worker"
  | configuration reason => "error with configuration: " ++ reason
  | tls reason => "error occurred while attempting to establish a TLS connection: " ++ reason
  | typeNotFound name => "type named " ++ name ++ " not found"
  | decode reason => "error occurred while decoding: " ++ reason

/-- The error of an execution. Where no connection was to be had it is a connection error. -/
def toError (e : DriverError) : Error :=
  match e with
  | poolTimedOut | poolClosed | io _ => .connection e.message
  | database _ => .database e.message
  | _ => .execution e.message

end DriverError

/-- What a database answers to a statement with its arguments: fetched rows, or a number of
affected rows. -/
structure PgConnection where
  fetch : String → List Argument → Except DriverError (List (List (PgColumn × PgCell)))
  execute : String → List Argument → Except DriverError Nat

namespace PgConnection

/-- A connection that answers everything with one error. -/
def failing (e : DriverError) : PgConnection :=
  ⟨fun _ _ => .error e, fun _ _ => .error e⟩

/-- Runs a statement on a connection. -/
def run (c : PgConnection) (s : Statement) : Except Error Result :=
  if s.params.any fun p => p.value?.isNone then
    .error (.execution "output binds are not supported by the sqlx executor")
  else
    let arguments := s.values.map Argument.ofValue
    if s.fetches then
      match c.fetch s.text arguments with
      | .ok rows => .ok (.ofRows (rows.map Row.ofCells))
      | .error e => .error e.toError
    else
      match c.execute s.text arguments with
      | .ok n => .ok { affected := n }
      | .error e => .error e.toError

/-- The executor on a connection. -/
def executor (c : PgConnection) : Executor Unit :=
  fun s u => (c.run s, u)

end PgConnection

end FilterSql
