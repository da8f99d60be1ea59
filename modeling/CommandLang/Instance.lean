/-
  CommandLang/Instance.lean
  =========================
  **Instances: commands together with arguments.**

  An instance keeps its arguments with the last one first.  An argument is looked up by its name,
  letter case aside, and the one given last counts.  If a kind is asked for as well, arguments of
  that name but another kind are passed over, each with a note in the log.
-/
import CommandLang.Argument
import CommandLang.Log
import CommandLang.Text.Fold

namespace CommandLang

/-- A command together with arguments, as a definition gave them. -/
structure Instance where
  id : Int
  /-- The id of the command itself. -/
  command : Int
  definition : Text
  /-- The arguments, the last one first. -/
  arguments : List Argument
deriving DecidableEq, Repr

/-! ### Looking up an argument -/

namespace Argument

/-- The note that an argument was passed over for its kind. -/
def passedOver (name : Text) (wanted : Kind) (a : Argument) : Log.Entry :=
  ⟨.debug, "commands.registry",
    "[ARGS] found `" ++ name ++ "` of a different type (wanted: " ++ wanted.label ++ ", is: " ++
      a.kind.label ++ ")"⟩

/-- The first argument of a name, and of a kind if one is wanted, with the notes on those passed
    over. -/
def find? (name : Text) (wanted : Option Kind) :
    List Argument → Option Argument × List Log.Entry
  | [] => (none, [])
  | a :: rest =>
    if a.name.fold = name.fold then
      match wanted with
      | none => (some a, [])
      | some kind =>
        if a.kind = kind then (some a, [])
        else
          let (found, log) := find? name wanted rest
          (found, passedOver name kind a :: log)
    else find? name wanted rest

end Argument

namespace Instance

/-- Looks up an argument of an instance, which may be absent. -/
def argument? (x : Option Instance) (name : Text) (wanted : Option Kind) :
    Option Argument × List Log.Entry :=
  match x with
  | none => (none, [])
  | some x => Argument.find? name wanted x.arguments

/-- What the argument of a kind holds, and the default if there is no such argument. -/
def held {α : Type} (kind : Kind) (read? : Value → Option α) (x : Option Instance) (name : Text)
    (default : α) : α × List Log.Entry :=
  let (found, log) := argument? x name (some kind)
  ((found.bind fun a => read? a.value).getD default, log)

def int (x : Option Instance) (name : Text) (default : Int) : Int × List Log.Entry :=
  held .int Value.int? x name default

def bool (x : Option Instance) (name : Text) (default : Bool) : Bool × List Log.Entry :=
  held .bool Value.bool? x name default

def string (x : Option Instance) (name : Text) (default : Option Text) :
    Option Text × List Log.Entry :=
  held .string (fun value => value.string?.map some) x name default

def color (x : Option Instance) (name : Text) (default : Option Color) :
    Option Color × List Log.Entry :=
  held .color (fun value => value.color?.map some) x name default

end Instance

end CommandLang
