/-
  CommandLang/Main.lean
  =====================
  **The program.**
-/
import CommandLang.CommandLine.Run

namespace CommandLang

/-- How the program is called. -/
def usage : String :=
  "usage: command-grammar [-h] [--list] [--describe NAME] [--plain] " ++
    "[--log-level \x7bDEBUG,INFO,WARNING,ERROR\x7d] [definitions ...]"

/-- The screen that the program writes on: as wide as the environment says, or else 80 columns. -/
def screen : IO Screen := do
  let columns ← IO.getEnv "COLUMNS"
  return ⟨(columns.bind String.toNat?).getD 80, .none⟩

/-- Writes what a run leaves behind and gives its exit status. -/
def finish (s : CommandLine.Settings) (r : CommandLine.Result) : IO UInt32 := do
  (← IO.getStderr).putStr (String.ofList (CommandLine.logText s r.log))
  (← IO.getStdout).putStr (String.ofList r.output)
  return r.status.toUInt32

/-- Writes a message about a run that did not take place or broke off. -/
def complain (status : UInt32) (message : Text) : IO UInt32 := do
  (← IO.getStderr).putStrLn ("command-grammar: error: " ++ String.ofList message)
  return status

end CommandLang

open CommandLang in
/-- Reads the command line and does what it asks for. -/
def main (words : List String) : IO UInt32 := do
  match CommandLine.read (words.map String.toList) with
  | .error e =>
    (← IO.getStderr).putStrLn usage
    complain 2 e.message
  | .ok .help =>
    (← IO.getStdout).putStrLn usage
    return 0
  | .ok (.run s) =>
    match CommandLine.run Builtin.vocabulary s (← screen) with
    | .ok r => finish s r
    | .error e => complain 1 e.message
