import FilterSql.CommandLine.Help
import FilterSql.Config
import FilterSql.DatabaseUrl
import FilterSql.Descriptor.Reader
import FilterSql.Engine
import FilterSql.Sigils

/-!
# Running a command line

A command line is answered with an exit code, what is printed, and why it failed if it did. What
comes from outside (files, standard input, the database) is an `Environment`. The configuration is
read before the descriptor, and a command that executes first checks its dialect and its database
URL.
-/

namespace FilterSql

/-- What a command finds outside of the program. -/
structure Environment where
  /-- The text of standard input. -/
  stdin : String := ""
  /-- The text of a file, or why it cannot be read. -/
  fileText : String → Except String String
  /-- The text of the configuration file in the working directory. -/
  localConfig : Option String := none
  /-- The text of the user's configuration file. -/
  userConfig : Option String := none
  /-- The database URL to use where the command line has none. -/
  databaseUrl : Option String := none
  connect : String → Except DriverError PgConnection

/-- Why a command failed. -/
inductive Failure where
  | error (e : Error)
  | unreadable (path reason : String)
  | badDescriptor (f : Fault)
  | wrongDialect
  | noDatabaseUrl

namespace Failure

/-- The wording of a fault of a descriptor's text. -/
def faultMessage : Fault → String
  | .malformed => "malformed JSON"
  | .truncated => "the JSON text ends too early"
  | .mismatch m => m.message

def message : Failure → String
  | error e => e.message
  | unreadable path reason => "reading " ++ path ++ ": " ++ reason
  | badDescriptor f => "parsing descriptor: " ++ faultMessage f
  | wrongDialect => "the sqlx executor runs PostgreSQL only; pass --dialect postgres"
  | noDatabaseUrl => "No database URL. Use --database-url or set QFILTER_DATABASE_URL"

end Failure

/-- What a command line comes to. -/
structure Outcome where
  code : Nat := 0
  stdout : String := ""
  /-- What is printed on standard error: why the command failed, or that the arguments do not fit
  together. -/
  stderr : String := ""
  deriving DecidableEq, Repr

namespace CommandLine

/-- A step of a command: it adds lines to what is printed and may fail. -/
abbrev Task := ExceptT Failure (StateM (List String))

def print (lines : List String) : Task Unit :=
  modify (· ++ lines)

def succeed {α ε : Type} (failure : ε → Failure) : Except ε α → Task α
  | .ok a => return a
  | .error e => throw (failure e)

/-- The configuration: from the working directory, else the user's, else the default one. -/
def configuration (env : Environment) : Task Config :=
  match env.localConfig.or env.userConfig with
  | some text => succeed .error (Config.parse text)
  | none => return {}

/-- The compiler's settings, with the options of the command line over the configuration. -/
def settings (o : Options) (c : Config) : Settings :=
  { c.settings with
    dialect := o.dialect.getD c.settings.dialect
    mode := if o.inlineValues then .inline else c.settings.mode
    strict := o.strict || c.settings.strict }

/-- The descriptor of a file, or of standard input where the file is a dash. -/
def descriptor (env : Environment) (o : Options) (input : String) : Task Descriptor := do
  let text ←
    if input = "-" then pure env.stdin else succeed (.unreadable input) (env.fileText input)
  let d ← succeed .badDescriptor (Descriptor.parse text)
  return { d with language := o.language.or d.language }

/-- A statement with its parameters. -/
def statementLines (title : String) (s : Statement) : List String :=
  let binding : Nat × Param → String
    | (n, .input v) => "  " ++ toString n ++ " = " ++ v.display
    | (n, .output column) => "  " ++ toString n ++ " => out(" ++ column ++ ")"
  let bindings := ((List.range' 1 s.params.length).zip s.params).map binding
  [title, s.text] ++ if s.params.isEmpty then [] else ["", "Bindings:"] ++ bindings

def compiled {α : Type} (c : Compile α) : Task α :=
  succeed .error (c {}).1

/-- Prints the statements of a descriptor. -/
def compile (env : Environment) (o : Options) (input : String) : Task Unit := do
  let settings := settings o (← configuration env)
  let d ← descriptor env o input
  if o.verbose then
    print ["Descriptor: " ++ d.exec.name ++ " on " ++ d.qualifiedTable ++ " (" ++
      settings.dialect.name ++ ")"]
  if d.exec = .list then
    let (data, count) ← compiled (settings.compileList d)
    print (statementLines "Data SQL:" data ++ "" :: statementLines "Count SQL:" count)
  else
    print (statementLines "Generated SQL:" (← compiled (settings.compile d)))

/-- The connection to a database. -/
def connection (env : Environment) (url : String) : Task PgConnection :=
  let refused (e : DriverError) : Failure := .error (.connection e.message)
  match DatabaseUrl.fault? url with
  | some e => throw (refused e)
  | none => succeed refused (env.connect url)

/-- Executes a descriptor and prints its output. -/
def run (env : Environment) (o : Options) (input : String) (url : Option String)
    (format : OutputFormat) : Task Unit := do
  let config ← configuration env
  let settings := settings o config
  if settings.dialect ≠ .postgres then throw .wrongDialect
  match (url.or env.databaseUrl).or config.url with
  | none => throw .noDatabaseUrl
  | some url =>
    let d ← descriptor env o input
    if o.verbose then print ["Connecting to: " ++ url]
    let c ← connection env url
    let (output, _) := Engine.exec settings c.executor .logging d { executor := () }
    print ((← succeed .error output).lines format)

/-- Does what a command asks for. -/
def perform (env : Environment) (o : Options) : Command → Task Unit
  | .compile input => compile env o input
  | .run input url format => run env o input url format
  | .sigils => print Sigils.lines

/-- The name of the program with its version. -/
def versionLine : String := "qfilter 0.3.0"

/-- What is printed where the arguments do not fit together. -/
def usageLines : List String :=
  ["error: the arguments do not fit together", "", "For more information, try '--help'."]

/-- Answers a command line. -/
def answer (env : Environment) (arguments : List String) : Outcome :=
  match Command.ofArguments arguments with
  | .error .usage => { code := 2, stderr := printed usageLines }
  | .error .version => { stdout := printed [versionLine] }
  | .error (.help command) => { stdout := printed (Help.lines command) }
  | .ok (command, options) =>
    match perform env options command [] with
    | (.ok (), lines) => { stdout := printed lines }
    | (.error failure, lines) =>
      { code := 1, stdout := printed lines, stderr := "Error: " ++ failure.message ++ "\n" }

end CommandLine

end FilterSql
