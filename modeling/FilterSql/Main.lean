import FilterSql.CommandLine.Run

/-!
# The program

Reads what a command needs from outside, answers the command line, and prints the answer. There is
no network here, so no connection to a database comes about.
-/

open FilterSql

/-- The text of a file that may not exist. -/
def readOptional (path : String) : IO (Option String) := do
  try return some (← IO.FS.readFile path) catch _ => return none

/-- The text of a file, or why it cannot be read. -/
def readReported (path : String) : IO (Except String String) := do
  try return .ok (← IO.FS.readFile path)
  catch
    | .noFileOrDirectory .. => return .error "No such file or directory (os error 2)"
    | .inappropriateType .. => return .error "Is a directory (os error 21)"
    | .permissionDenied .. => return .error "Permission denied (os error 13)"
    | e => return .error (toString e)

/-- The user's configuration file. -/
def userConfigPath : IO String := do
  match ← IO.getEnv "XDG_CONFIG_HOME", ← IO.getEnv "HOME" with
  | some directory, _ => return directory ++ "/qfilter/config.toml"
  | none, home => return home.getD "" ++ "/.config/qfilter/config.toml"

def main (arguments : List String) : IO UInt32 := do
  let input := match Command.ofArguments arguments with
    | .ok (.compile input, _) => some input
    | .ok (.run input _ _, _) => some input
    | _ => none
  let stdin ← if input = some "-" then (← IO.getStdin).readToEnd else pure ""
  let file ← match input with
    | some path => readReported path
    | none => pure (.ok "")
  let outcome := CommandLine.answer
    { stdin
      fileText := fun _ => file
      localConfig := ← readOptional "qfilter.toml"
      userConfig := ← readOptional (← userConfigPath)
      databaseUrl := ← IO.getEnv "QFILTER_DATABASE_URL"
      connect := fun _ => .error (.io "Network is unreachable (os error 101)") }
    arguments
  (← IO.getStdout).putStr outcome.stdout
  (← IO.getStderr).putStr outcome.stderr
  return outcome.code.toUInt32
