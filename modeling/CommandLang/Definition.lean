/-
  CommandLang/Definition.lean
  ===========================
  **The two parts of a definition, and what is made of it.**

  A definition is the name of a command, optionally followed by a space and the text of its
  arguments.  Blanks before the name and between the name and the space are left out, as are further
  spaces before the arguments; blanks after the arguments are kept.

  `Vocabulary.judge` classifies a definition without regard to what was defined before.
-/
import CommandLang.Builtin
import CommandLang.Scan
import CommandLang.Text.Blank

namespace CommandLang

namespace Definition

/-- The parts of a definition: a name, and the text of the arguments if there is any. -/
structure Parts where
  name : Text
  tail : Option Text
deriving DecidableEq, Repr

/-- Parts a definition at the first space after its leading blanks.  A tail of nothing but blanks
    counts as none. -/
def split (definition : Text) : Parts :=
  let (head, after) := definition.trimLeft.cutAt ' '
  let tail := after.dropSpaces
  ⟨head.trimRight, if tail.isAllBlank then none else some tail⟩

end Definition

/-! ### Refusals -/

inductive Refusal where
  | empty
  | unknownCommand
  /-- There are arguments, but the command takes none. -/
  | noArguments
  /-- There are arguments, but the command's group has no specs. -/
  | noSpecs
  /-- There are arguments, but none could be used. -/
  | malformed
deriving DecidableEq, Repr

namespace Refusal

def code : Refusal → Text
  | empty => "EMPTY_DEFINITION"
  | unknownCommand => "UNKNOWN_COMMAND"
  | noArguments | noSpecs => "NO_ARGUMENTS"
  | malformed => "MALFORMED_DEFINITION"

def message (definition : Text) : Refusal → Text
  | empty => "definition is empty"
  | unknownCommand => "unknown command name in '" ++ definition ++ "'"
  | noArguments => "command in '" ++ definition ++ "' doesn't accept arguments"
  | noSpecs => "no argument specs for command in '" ++ definition ++ "'"
  | malformed => "failed to parse arguments for '" ++ definition ++ "'"

end Refusal

/-! ### Verdicts -/

/-- What is made of a definition by itself. -/
inductive Verdict where
  | refused (reason : Refusal)
  | plain (command : Int)
  | scanned (command : Int) (trace : Scan.Trace)
deriving DecidableEq, Repr

def Vocabulary.judge (v : Vocabulary) (definition : Text) : Verdict :=
  let parts := Definition.split definition
  if parts.name.isEmpty then .refused .empty
  else
    match v.commands.idByName? parts.name with
    | none => .refused .unknownCommand
    | some command =>
      match parts.tail with
      | none => .plain command
      | some tail =>
        if v.groups.accepts command then
          match Spec.ofGroup (v.groupOf command) v.specs with
          | [] => .refused .noSpecs
          | specs => .scanned command (Scan.scan specs tail)
        else .refused .noArguments

end CommandLang
