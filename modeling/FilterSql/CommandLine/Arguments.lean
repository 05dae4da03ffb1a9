import FilterSql.Dialect
import FilterSql.Output.Text

/-!
# Command-line arguments

The program has switches and three commands, and a command has an operand or none. The switches of
the program may stand before the command or after it, where the later place counts more; at one
place a switch may stand once. A switch with a value takes it from the same word or from the next
one, which then must not look like a switch. After `--` every word is an operand. Words are read in
order, and the first one that asks for help or the version, or that cannot be read, decides.
-/

namespace FilterSql

/-- What a switch is for. -/
inductive SwitchKind where
  | flag
  /-- A switch with a value, which has to be accepted. -/
  | valued (accepts : String → Bool)
  | help
  | version

/-- A switch of the command line. -/
structure Switch where
  long : String
  short : Option Char := none
  kind : SwitchKind := .flag
  /-- How the value is called, where there is one. -/
  valueName : String := ""
  summary : String

/-- Why the command line asks for nothing to be run. -/
inductive Stop where
  /-- The arguments do not fit together. -/
  | usage
  /-- Help is asked for: on the program, or on a command. -/
  | help (command : Option String)
  | version
  deriving DecidableEq, Repr

/-- The program's switches, which every command takes as well. -/
def programSwitches : List Switch := [
  { long := "dialect", short := some 'd', valueName := "DIALECT"
    kind := .valued fun s => (Dialect.parse s).toBool
    summary := "SQL dialect (overrides the config file)" },
  { long := "inline"
    summary := "Escape values into the SQL text instead of binding them" },
  { long := "strict", summary := "Reject unknown condition kinds" },
  { long := "language", short := some 'l', valueName := "LANGUAGE"
    kind := .valued fun _ => true
    summary := "Language code for localized columns" },
  { long := "verbose", short := some 'v', summary := "Verbose output" }]

def helpSwitch : Switch :=
  { long := "help", short := some 'h', kind := .help, summary := "Print help" }

def versionSwitch : Switch :=
  { long := "version", short := some 'V', kind := .version, summary := "Print version" }

/-- The switches of a command that runs a statement. -/
def runSwitches : List Switch := [
  { long := "database-url", valueName := "DATABASE_URL", kind := .valued fun _ => true
    summary := "Database connection URL [env: QFILTER_DATABASE_URL=]" },
  { long := "format", short := some 'f', valueName := "FORMAT"
    kind := .valued fun s => (OutputFormat.ofName? s).isSome
    summary := "Output format [default: table] [possible values: table, json]" }]

/-- The commands, the one that explains the others apart. -/
inductive CommandName where
  | compile
  | run
  | sigils
  deriving DecidableEq, Repr

namespace CommandName

def all : List CommandName := [compile, run, sigils]

def text : CommandName → String
  | compile => "compile"
  | run => "run"
  | sigils => "sigils"

def ofText? (s : String) : Option CommandName :=
  all.find? (·.text = s)

/-- The command that explains the others. -/
def helpText : String := "help"

/-- How many operands a command has. -/
def operands : CommandName → Nat
  | compile | run => 1
  | sigils => 0

/-- The switches that a command takes. -/
def switches (c : CommandName) : List Switch :=
  (if c = run then runSwitches else []) ++ programSwitches ++ [helpSwitch]

end CommandName

/-- What can stand at one place of the command line: before the command, or after it. -/
structure Place where
  switches : List Switch
  operands : Nat
  /-- Whether a command can follow. -/
  hasCommands : Bool
  /-- The command that the place belongs to. -/
  command : Option String

def programPlace : Place where
  switches := programSwitches ++ [helpSwitch, versionSwitch]
  operands := 0
  hasCommands := true
  command := none

def commandPlace (c : CommandName) : Place where
  switches := c.switches
  operands := c.operands
  hasCommands := false
  command := some c.text

/-- The switches, with their values, and operands that stand at one place. -/
structure Given where
  values : List (String × String) := []
  operands : List String := []

namespace Given

/-- The value of a switch. -/
def value? (g : Given) (long : String) : Option String :=
  g.values.lookup long

def has (g : Given) (long : String) : Bool :=
  (g.value? long).isSome

end Given

namespace Place

/-- Whether a word is a command. -/
def startsCommand (p : Place) (word : String) : Bool :=
  p.hasCommands && (word = CommandName.helpText || (CommandName.ofText? word).isSome)

/-- Whether a word has to be a switch. -/
def looksLikeSwitch (word : String) : Bool :=
  match word.toList with
  | ['-'] => false
  | '-' :: _ => true
  | _ => false

def addOperand (p : Place) (word : String) (g : Given) : Except Stop Given :=
  if g.operands.length < p.operands then .ok { g with operands := g.operands ++ [word] }
  else .error .usage

/-- Takes a switch that has its value, or needs none. -/
def take (p : Place) (s : Switch) (value : Option String) (g : Given) : Except Stop Given :=
  let add (v : String) : Except Stop Given :=
    if g.has s.long then .error .usage else .ok { g with values := (s.long, v) :: g.values }
  match s.kind, value with
  | .flag, none => add ""
  | .valued accepts, some v => if accepts v then add v else .error .usage
  | .help, none => .error (.help p.command)
  | .version, none => .error .version
  | _, _ => .error .usage

/-- Reads a word of two dashes and a name, perhaps with a value. A switch that still needs its
value is given back. -/
def readLong (p : Place) (word : List Char) (g : Given) : Except Stop (Given × Option Switch) :=
  let name := String.ofList (word.takeWhile (· ≠ '='))
  match p.switches.find? (·.long = name), word.dropWhile (· ≠ '=') with
  | none, _ => .error .usage
  | some s, _ :: value => do return (← p.take s (some (String.ofList value)) g, none)
  | some s, [] =>
    match s.kind with
    | .valued _ => .ok (g, some s)
    | _ => do return (← p.take s none g, none)

/-- Reads the letters after a dash. The rest of the word is the value of a switch that takes
one. -/
def readShort (p : Place) : List Char → Given → Except Stop (Given × Option Switch)
  | [], g => .ok (g, none)
  | c :: cs, g =>
    match p.switches.find? (·.short = some c) with
    | none => .error .usage
    | some s =>
      match s.kind with
      | .valued _ =>
        match cs with
        | [] => .ok (g, some s)
        | '=' :: value => do return (← p.take s (some (String.ofList value)) g, none)
        | value => do return (← p.take s (some (String.ofList value)) g, none)
      | _ => do p.readShort cs (← p.take s none g)

/-- Reads a word that looks like a switch. -/
def readSwitch (p : Place) (word : String) (g : Given) : Except Stop (Given × Option Switch) :=
  match word.toList with
  | '-' :: '-' :: cs => p.readLong cs g
  | _ :: cs => p.readShort cs g
  | [] => .error .usage

/-- Reads the words of a place. What is left starts with a command. -/
def read (p : Place) : List String → Given → Except Stop (Given × List String)
  | [], g => .ok (g, [])
  | word :: words, g =>
    if p.startsCommand word then .ok (g, word :: words)
    else if word = "--" then do return (← words.foldlM (fun g w => p.addOperand w g) g, [])
    else if looksLikeSwitch word then
      match p.readSwitch word g, words with
      | .error stop, _ => .error stop
      | .ok (g, none), words => p.read words g
      | .ok (_, some _), [] => .error .usage
      | .ok (g, some s), value :: words =>
        if looksLikeSwitch value then .error .usage
        else do p.read words (← p.take s (some value) g)
    else do p.read words (← p.addOperand word g)

end Place

/-- What every command can be told. -/
structure Options where
  dialect : Option Dialect := none
  inlineValues : Bool := false
  strict : Bool := false
  language : Option String := none
  verbose : Bool := false
  deriving DecidableEq, Repr

/-- A command with what it needs. -/
inductive Command where
  | compile (input : String)
  | run (input : String) (databaseUrl : Option String) (format : OutputFormat)
  | sigils
  deriving DecidableEq, Repr

namespace Options

/-- The options of the switches before and after the command. -/
def ofGiven (before after : Given) : Options :=
  let value? (long : String) : Option String := (after.value? long).or (before.value? long)
  { dialect := (value? "dialect").bind fun s => (Dialect.parse s).toOption
    inlineValues := (value? "inline").isSome
    strict := (value? "strict").isSome
    language := value? "language"
    verbose := (value? "verbose").isSome }

end Options

namespace Command

/-- The command of a name and what stands after it. -/
def ofGiven? : CommandName → Given → Option Command
  | .compile, g => do return compile (← g.operands.head?)
  | .run, g => do
    let format := ((g.value? "format").bind OutputFormat.ofName?).getD .table
    return run (← g.operands.head?) (g.value? "database-url") format
  | .sigils, _ => some sigils

/-- What the words after the help command ask for. -/
def helpStop : List String → Stop
  | [] => .help none
  | [word] =>
    if word = CommandName.helpText || (CommandName.ofText? word).isSome then .help (some word)
    else .usage
  | _ => .usage

/-- Reads a command line. -/
def ofArguments (arguments : List String) : Except Stop (Command × Options) := do
  let (before, words) ← programPlace.read arguments {}
  match words with
  | [] => .error .usage
  | word :: words =>
    match CommandName.ofText? word with
    | none => .error (helpStop words)
    | some name =>
      let (after, _) ← (commandPlace name).read words {}
      match ofGiven? name after with
      | none => .error .usage
      | some command => return (command, Options.ofGiven before after)

end Command

end FilterSql
