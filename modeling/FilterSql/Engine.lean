import FilterSql.Compiler
import FilterSql.Output

/-!
# The engine

The engine compiles a descriptor, hands its statements to an executor and shapes the answer. Both
statements of a list are compiled before either is executed, and the second is not executed when
the first has failed. An execution error is reported to a hook, and then given to the caller,
whatever the hook does.

An executor is a function with a state of its own, and a run changes an `EngineState`.
-/

namespace FilterSql

/-- Answers one statement. -/
abbrev Executor (σ : Type) := Statement → σ → Except Error Result × σ

/-- Who is told of an execution error. -/
inductive Hook where
  | none
  /-- A hook that returns. -/
  | quiet
  /-- A hook that fails. -/
  | panicking
  /-- A hook that logs the error with the beginning of the statement. -/
  | logging
  deriving DecidableEq, Repr

/-- What a run of the engine works with and leaves behind. -/
structure EngineState (σ : Type) where
  executor : σ
  session : Session := {}
  /-- How many reading and writing statements have been handed to the executor. -/
  reads : Nat := 0
  writes : Nat := 0
  /-- The errors that were reported to the hook, with their statements. -/
  reports : List (Error × Statement) := []

namespace EngineState

variable {σ : Type}

/-- Counts a statement. -/
def record (s : EngineState σ) (kind : StatementKind) : EngineState σ :=
  match kind with
  | .read => { s with reads := s.reads + 1 }
  | .write => { s with writes := s.writes + 1 }

def log (s : EngineState σ) (level : Level) (message : String) : EngineState σ :=
  { s with session := s.session.record { level, message } }

/-- Reports an error to the hook. -/
def report (s : EngineState σ) (hook : Hook) (e : Error) (statement : Statement) :
    EngineState σ :=
  let told := { s with reports := s.reports ++ [(e, statement)] }
  match hook with
  | .none => s
  | .quiet => told
  | .panicking => told.log .warn ("error hook panicked while reporting: " ++ e.message)
  | .logging => told.log .error (e.message ++ " - " ++ statement.preview 100)

end EngineState

namespace Engine

variable {σ : Type}

/-- A step of the engine, which may fail. -/
abbrev Run (σ : Type) := ExceptT Error (StateM (EngineState σ))

/-- Compiles within a run. -/
def compiling {α : Type} (c : Compile α) : Run σ α := fun s =>
  let (r, session) := c s.session
  (r, { s with session })

/-- Executes one statement. -/
def execute (executor : Executor σ) (hook : Hook) (statement : Statement) : Run σ Result :=
  fun s =>
    let s := s.record statement.kind
    match executor statement s.executor with
    | (.ok result, state) => (.ok result, { s with executor := state })
    | (.error e, state) => (.error e, { s with executor := state }.report hook e statement)

/-- Runs a descriptor from end to end. -/
def exec (settings : Settings) (executor : Executor σ) (hook : Hook) (d : Descriptor) :
    Run σ Output :=
  if d.exec = .list then do
    let (data, count) ← compiling (settings.compileList d)
    let data ← execute executor hook data
    let count ← execute executor hook count
    return Output.ofList data count
  else do
    let statement ← compiling (settings.compile d)
    let result ← execute executor hook statement
    return Output.ofResult d statement.exec result

end Engine

/-- Passes a maintenance tick on to the cache. -/
def EngineState.tick {σ : Type} (settings : Settings) (counter : Nat) (s : EngineState σ) :
    Bool × EngineState σ :=
  let (cleared, session) := s.session.tick settings.clearEvery counter
  (cleared, { s with session })

/-- An executor that gives prepared answers in order, and then empty results. -/
structure Script where
  answers : List (Except Error Result) := []
  /-- The statements executed so far. -/
  executed : List Statement := []

/-- Answers from a script. -/
def Script.executor : Executor Script := fun statement s =>
  let executed := s.executed ++ [statement]
  match s.answers with
  | [] => (.ok {}, { answers := [], executed })
  | answer :: answers => (answer, { answers, executed })

end FilterSql
