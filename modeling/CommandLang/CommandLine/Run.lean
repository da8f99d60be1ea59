/-
  CommandLang/CommandLine/Run.lean
  ================================
  **What the program does with its settings.**

  In this order: the table of commands, if it is asked for; help on a command, given its name or
  its description; and the definitions, tried one after another in a new registry, with the table of
  their outcomes and a block for every instance they made.  The exit status is 1 if the command to
  be described is not found or a definition is refused.  Nothing at all is done if the level of the
  log was withheld, which the earlier edition of the reader lets happen.
-/
import CommandLang.CommandLine.Options
import CommandLang.Help
import CommandLang.Registry.Basic
import CommandLang.Report.Display

namespace CommandLang.CommandLine

/-- What a run leaves behind: its exit status, its output and the entries of its log. -/
structure Result where
  status : Nat
  output : Text
  log : List Log.Entry
deriving DecidableEq, Repr

inductive Failure where
  | noLevel
  | console (e : Console.Error)
  | fault (f : Scan.Fault)
deriving DecidableEq, Repr

def Failure.message : Failure → Text
  | noLevel => "attribute name must be string, not 'list'"
  | console e => e.message
  | fault f => f.message

/-- Brings what is written on a console into a run. -/
def writing (w : Except Console.Error Text) : Except Failure Text := w.mapError .console

def Settings.console (s : Settings) (screen : Screen) : Console :=
  if s.plain then .plain else .boxed screen

/-- The name under which the program makes log entries. -/
def logSource : Text := "cli"

def listCommands (v : Vocabulary) (console : Console) : Except Failure Result := do
  return ⟨0, ← writing (console.table v.table none false), []⟩

/-- Help on the command that a text names, or else describes. -/
def describe (v : Vocabulary) (console : Console) (t : Text) : Except Failure Result :=
  match v.commands.idByName? t <|> v.commands.idByDescription? t with
  | none => do return ⟨1, ← writing (console.report ("Unknown command: " ++ t)), []⟩
  | some id => do return ⟨0, ← writing (console.block "Command" (v.help id)), []⟩

def tryDefinitions (v : Vocabulary) (console : Console) (definitions : List Text) :
    Except Failure Result :=
  let reply := Registry.tryAll v (Registry.empty logSource Registry.usualFirstId) definitions
  match reply.result with
  | .error fault => .error (.fault fault)
  | .ok outcomes => do
    let table ← writing (console.table (Outcome.table outcomes) none false)
    let blocks ← reply.registry.instances.mapM fun x =>
      writing (console.block "Instance" (v.describeInstance x))
    return ⟨if outcomes.all Outcome.isAccepted then 0 else 1, table ++ blocks.flatten, reply.log⟩

/-- Two parts of a run, one after the other. -/
def Result.andThen (first second : Result) : Result :=
  ⟨max first.status second.status, first.output ++ second.output, first.log ++ second.log⟩

/-- The part of a run that is not asked for. -/
def Result.nothing : Result := ⟨0, [], []⟩

/-- All that the settings ask for, part after part. -/
def perform (v : Vocabulary) (s : Settings) (screen : Screen) : Except Failure Result := do
  let console := s.console screen
  let listed ← if s.list then listCommands v console else pure .nothing
  let described ← match s.describe with
    | some (c :: t) => describe v console (c :: t)
    | _ => pure .nothing
  let tried ← if s.definitions.isEmpty then pure .nothing
    else tryDefinitions v console s.definitions
  return (listed.andThen described).andThen tried

def run (v : Vocabulary) (s : Settings) (screen : Screen := .wide) : Except Failure Result :=
  if s.level.isNone then .error .noLevel else perform v s screen

/-- The lines of the log that are serious enough for the settings. -/
def logText (s : Settings) (log : List Log.Entry) : Text :=
  Console.written ((log.filter fun e => s.level.any (e.reaches ·)).map Log.Entry.line)

end CommandLang.CommandLine
