import FilterSql.Clause.Resolve
import FilterSql.Request
import FilterSql.Statement
import FilterSql.Template
import FilterSql.WriteScan

/-!
# The compiler

A descriptor becomes a statement in three steps. `Descriptor.request` checks it, `Request.draft`
looks its names up and leaves a fragment in which the places of values are open, and
`Plan.statement` fills the places for one dialect and one way of binding. Only the second step
touches the cache, and only the third knows the dialect.
-/

namespace FilterSql

/-- What a compiler is set to. -/
structure Settings where
  dialect : Dialect := .oracle
  mode : BindMode := .parameterized
  /-- Refuse conditions of an unknown kind instead of passing over them. -/
  strict : Bool := false
  /-- The cache is cleared on every tick that is a multiple of this; 0 is never. -/
  clearEvery : Nat := 10
  deriving DecidableEq, Repr

/-- A statement before its order, page and returned columns. -/
inductive Draft where
  | direct (fragment : Fragment)
  /-- A template with its own parameters, and the filter that goes into it. -/
  | template (text : String) (params : List Value) (filter : Fragment)

/-- A statement whose places are still open. -/
structure Plan where
  draft : Draft
  exec : Exec
  /-- The order of the rows, with a blank before it, or nothing. -/
  order : String
  take : Option Nat
  skip : Option Nat
  /-- The columns to give back: as the descriptor names them, and as SQL. -/
  returning : List (String × String)

namespace Request

/-- The operand of an aggregate function. -/
def operandSql (language : String) : Option String → Compile String
  | some key => Compile.column language key
  | none => return "1"

/-- The columns of a select. -/
def selectList (language : String) : List String → Compile String
  | [] => return "*"
  | fields => Compile.fieldList language fields

/-- The draft of a request. The names before the filter are looked up before those in it. -/
def draft (d : Descriptor) (strict : Bool) (r : Request) : Compile Draft := do
  let table := d.qualifiedTable
  let language := d.languageCode
  let filter := Condition.whereClause language strict d.conditions
  match r with
  | select fields =>
    let columns ← selectList language fields
    return .direct (.text ("SELECT " ++ columns ++ " FROM " ++ table) :: (← filter))
  | count =>
    return .direct (.text ("SELECT COUNT(1) AS COUNT FROM " ++ table) :: (← filter))
  | insert assignments =>
    return .direct
      (.text ("INSERT INTO " ++ table ++ " (" ++
          String.intercalate "," (assignments.map (·.column)) ++ ") VALUES (") ::
        (Fragment.join "," (assignments.map (·.value)) ++ [.text ")"]))
  | update assignments =>
    return .direct
      (.text ("UPDATE " ++ table ++ " SET ") ::
        (Fragment.join "," (assignments.map Assignment.fragment) ++ (← filter)))
  | remove =>
    return .direct (.text ("DELETE FROM " ++ table) :: (← filter))
  | drop => return .direct [.text ("DROP TABLE " ++ table)]
  | truncate => return .direct [.text ("TRUNCATE TABLE " ++ table)]
  | aggregate function key =>
    let operand ← operandSql language key
    return .direct
      (.text ("SELECT " ++ function.sql ++ "(" ++ operand ++ ") AS VALUE FROM " ++ table) ::
        (← filter))
  | group key sum =>
    let key ← Compile.column language key
    let value ← match sum with
      | some column => do
        let column ← Compile.column language column
        pure ("SUM(" ++ column ++ ")")
      | none => pure "COUNT(1)"
    return .direct
      (.text ("SELECT " ++ key ++ ", " ++ value ++ " AS VALUE FROM " ++ table) ::
        ((← filter) ++ [.text (" GROUP BY " ++ key)]))
  | template text =>
    return .template text d.params (← filter)

end Request

namespace Descriptor

/-- The order of the rows, with a blank before it. -/
def orderSql (d : Descriptor) : Compile String :=
  match d.sort.getD [] with
  | [] => return ""
  | tokens => return " ORDER BY " ++ (← Compile.sortList d.languageCode tokens)

/-- The columns that an operation gives back. -/
def returned (d : Descriptor) : Exec → List String
  | .insert | .update | .remove => d.returningColumns
  | _ => []

/-- Names with their SQL. -/
def lookUp (language : String) : List String → Compile (List (String × String))
  | [] => return []
  | name :: names => do
    let sql ← Compile.column language name
    return (name, sql) :: (← lookUp language names)

/-- The plan of a request. -/
def plan (d : Descriptor) (strict : Bool) (exec : Exec) (r : Request) : Compile Plan := do
  let draft ← r.draft d strict
  let order ← if exec.isPaged then d.orderSql else pure ""
  let page (n : Option Nat) : Option Nat := if exec.isPaged then n.filter (· > 0) else none
  let returning ← lookUp d.languageCode (d.returned exec)
  return { draft, exec, order, take := page d.take, skip := page d.skip, returning }

end Descriptor

namespace Draft

/-- The input values of a draft: first those that a template brings with it. -/
def inputs (mode : BindMode) : Draft → List Value
  | direct f => f.params mode
  | template _ params filter => params.map Value.resolve ++ filter.params mode

/-- The text of a draft. -/
def text (dialect : Dialect) (mode : BindMode) : Draft → String
  | direct f => f.sql dialect mode 0
  | template text params filter => Template.fill text (filter.sql dialect mode params.length)

end Draft

namespace Plan

/-- The text up to the columns that are given back. -/
def body (dialect : Dialect) (mode : BindMode) (p : Plan) : String :=
  p.draft.text dialect mode ++ p.order ++ dialect.page p.take p.skip

/-- The output parameters: one for each column that comes back through a parameter. -/
def outputs (dialect : Dialect) (p : Plan) : List String :=
  if dialect.bindsReturned then p.returning.map (·.1) else []

/-- The end of the text, with the columns that are given back. -/
def returningSql (dialect : Dialect) (mode : BindMode) (p : Plan) : String :=
  if p.returning.isEmpty then ""
  else
    let bound := (p.draft.inputs mode).length
    let outs := (List.range (p.outputs dialect).length).map fun i =>
      dialect.placeholder (bound + i + 1)
    dialect.returning (p.returning.map (·.2)) outs

/-- Whether a statement with this text reads or writes. -/
def kind (exec : Exec) (text : String) : StatementKind :=
  match exec with
  | .find | .read | .list | .count | .check | .scalar => .read
  | .query => if WriteScan.isWrite text then .write else .read
  | _ => .write

/-- The statement of a plan. -/
def statement (dialect : Dialect) (mode : BindMode) (p : Plan) : Statement :=
  let text := p.body dialect mode ++ p.returningSql dialect mode
  { text
    params := (p.draft.inputs mode).map .input ++ (p.outputs dialect).map .output
    kind := kind p.exec text
    exec := p.exec
    returning := p.returning.map (·.1) }

end Plan

namespace Settings

/-- Compiles a descriptor as if `exec` were its operation. -/
def compileAs (s : Settings) (d : Descriptor) (exec : Exec) : Compile Statement := do
  let request ← d.request s.mode exec
  let plan ← d.plan s.strict exec request
  let statement := plan.statement s.dialect s.mode
  Compile.log ⟨if d.debug then .info else .trace, "compiled " ++ exec.name, some statement.text⟩
  return statement

/-- Compiles the operation of a descriptor. -/
def compile (s : Settings) (d : Descriptor) : Compile Statement :=
  s.compileAs d d.exec

/-- The two statements of a list: one for its rows and one for their number. -/
def compileList (s : Settings) (d : Descriptor) : Compile (Statement × Statement) := do
  let data ← s.compileAs d .list
  let count ← s.compileAs d .count
  return (data, count)

end Settings

end FilterSql
