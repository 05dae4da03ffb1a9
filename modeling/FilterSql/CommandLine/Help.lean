import FilterSql.CommandLine.Arguments

/-!
# Help

The help on the program and on each command: what it is for, how it is called, and its operands
and switches.
-/

namespace FilterSql

namespace Help

/-- The longest of some texts, in characters. -/
def widest (texts : List String) : Nat :=
  texts.foldl (fun w s => max w s.length) 0

/-- Lines of two columns. -/
def twoColumns (lines : List (String × String)) : List String :=
  let width := widest (lines.map (·.1))
  lines.map fun (left, right) => "  " ++ Table.padded width left ++ "  " ++ right

/-- A switch as it is written. -/
def switchText (s : Switch) : String :=
  let short := match s.short with
    | some c => "-" ++ c.toString ++ ", "
    | none => "    "
  short ++ "--" ++ s.long ++ if s.valueName.isEmpty then "" else " <" ++ s.valueName ++ ">"

/-- A titled part with two columns, after an empty line. -/
def part (title : String) (lines : List (String × String)) : List String :=
  if lines.isEmpty then [] else "" :: title :: twoColumns lines

def switchPart (switches : List Switch) : List String :=
  part "Options:" (switches.map fun s => (switchText s, s.summary))

/-- What a command is for. -/
def commandSummary : CommandName → String
  | .compile => "Compile a JSON descriptor and print the SQL with its bindings"
  | .run => "Compile and execute a JSON descriptor"
  | .sigils => "Show the mutation sigil reference"

/-- What the command that explains the others is for. -/
def helpSummary : String :=
  "Print this message or the help of the given subcommand(s)"

/-- The switches of a command as they are listed. -/
def listed (c : CommandName) : List Switch :=
  match c with
  | .run => programSwitches.take 1 ++ runSwitches ++ programSwitches.drop 1 ++ [helpSwitch]
  | c => c.switches

/-- The help on a command. -/
def command (c : CommandName) : List String :=
  let operands := if c.operands = 0 then [] else [("<INPUT>", "Descriptor file, or `-` for stdin")]
  let call := "Usage: qfilter " ++ c.text ++ " [OPTIONS]" ++
    if operands.isEmpty then "" else " <INPUT>"
  [commandSummary c, "", call] ++ part "Arguments:" operands ++ switchPart (listed c)

/-- The help on the program. -/
def program : List String :=
  let commands := CommandName.all.map fun c => (c.text, commandSummary c)
  ["Filter descriptors in, dialect SQL out", "", "Usage: qfilter [OPTIONS] <COMMAND>"] ++
    part "Commands:" (commands ++ [(CommandName.helpText, helpSummary)]) ++
    switchPart programPlace.switches ++
    ["", "EXAMPLES:", "    qfilter compile users.json",
      "    qfilter compile - --dialect postgres --inline < users.json",
      "    qfilter run users.json --format json"]

/-- The help on the command that explains the others. -/
def help : List String :=
  [helpSummary, "", "Usage: qfilter help [COMMAND]..."] ++
    part "Arguments:" [("[COMMAND]...", "Print help for the subcommand(s)")]

/-- The lines of the help that is asked for. -/
def lines (name : Option String) : List String :=
  match name with
  | none => program
  | some word => ((CommandName.ofText? word).map command).getD help

end Help

end FilterSql
