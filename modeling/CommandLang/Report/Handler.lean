/-
  CommandLang/Report/Handler.lean
  ===============================
  **Handlers in markup.**

  A tag whose name begins with `@` gives no style but tells what handles its text: a name, perhaps
  with arguments in parentheses, or arguments alone.  The arguments are a literal.  Nothing of a
  handler shows, but what it is given is read when its tag is closed (`Handler.check`).  This is so
  in rich 13.7.1.
-/
import CommandLang.Literal.Value
import CommandLang.Text.Quoted

namespace CommandLang.Handler

/-- A handler's name and the literal after it, if what is given is a name with or without arguments
    in parentheses.  The parentheses are on one line. -/
def parts? (given : Text) : Option (Text × Text) :=
  let isNamePart (c : Char) : Bool := isWordChar c || c == '.'
  let name := given.takeWhile isNamePart
  match given.dropWhile isNamePart with
  | [] => some (name, "()")
  | '(' :: t =>
    if t.getLast? == some ')' && !t.contains '\n' then some (name, '(' :: t) else none
  | _ => none

/-- The literal in what a handler is given. -/
def literal (parameters : Text) : Text :=
  let given := parameters.trim
  ((parts? given).map Prod.snd).getD given

/-- Why a handler is refused: what it is given, and what is wrong with that. -/
structure Error where
  parameters : Text
  cause : Literal.Error
deriving DecidableEq, Repr

def Error.message (e : Error) : Text :=
  match e.cause with
  | .unreadable fault =>
    "error parsing " ++ (literal e.parameters).quoted ++ " in " ++ e.parameters.quoted ++ "; " ++
      fault.message
  | .noValue fault => "error parsing " ++ e.parameters.quoted ++ "; " ++ fault.message

def check (parameters : Text) : Except Error Unit :=
  (Literal.check (literal parameters)).mapError (⟨parameters, ·⟩)

end CommandLang.Handler
