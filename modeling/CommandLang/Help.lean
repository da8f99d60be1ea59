/-
  CommandLang/Help.lean
  =====================
  **Help on commands and on instances.**
-/
import CommandLang.Instance
import CommandLang.Builtin

namespace CommandLang.Vocabulary

def labelled (label value : Text) : Text := label ++ ": " ++ value

/-- The line on one argument; its role is to be the default argument or a named one. -/
def specLine (role : Text) (s : Spec) : Text :=
  "- " ++ s.name ++ " (" ++ s.kind.label ++ ", " ++ role ++ ")"

/-- The line that shows how a command is used whose default argument has the given name. -/
def usageLine (c : Command) (argument : Text) : Text :=
  labelled "Usage" (c.name ++ " [<" ++ argument ++ ">] [<name>=<value> ...]")

/-- The name of the command whose arguments a command shares, if that is another command. -/
def sharedWith? (v : Vocabulary) (c : Command) : Option Text :=
  match v.commands.find? (v.groupOf c.id) with
  | some other => if other.id = c.id then none else some other.name
  | none => none

/-- The lines on the arguments of a command. -/
def argumentLines (v : Vocabulary) (c : Command) : List Text :=
  match v.specsFor c.id with
  | [] => [labelled "Args" "none"]
  | first :: others =>
    (v.sharedWith? c).toList.map (labelled "Shares arguments with") ++ [("Args:" : Text)] ++
      specLine "default" first :: others.map (specLine "named") ++
      [[], usageLine c first.name]

/-- The help on a command, line by line. -/
def helpLines (v : Vocabulary) (c : Command) : List Text :=
  [labelled "Command" c.name, labelled "Description" c.description,
    labelled "Id" (Numeral.write c.id)] ++ v.argumentLines c

def help (v : Vocabulary) (id : Int) : Text :=
  match v.commands.find? id with
  | some c => Text.join "\n" (v.helpLines c)
  | none => labelled "Unknown command" (Numeral.write id)

/-- The line on one argument of an instance. -/
def argumentLine (a : Argument) : Text := "- " ++ a.write ++ " (" ++ a.kind.label ++ ")"

/-- The name of a command, or its id if the catalog does not have it. -/
def nameOf (v : Vocabulary) (command : Int) : Text :=
  match v.commands.find? command with
  | some c => c.name
  | none => Numeral.write command

/-- What there is to say about an instance. -/
def describeInstance (v : Vocabulary) (x : Instance) : Text :=
  Text.join "\n"
    ([labelled "Instance" (Numeral.write x.id),
      labelled "Command" (v.nameOf x.command ++ " (" ++ Numeral.write x.command ++ ")"),
      labelled "Definition" x.definition,
      ("Args:" : Text)] ++ x.arguments.map argumentLine)

end CommandLang.Vocabulary
