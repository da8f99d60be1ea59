/-
  CommandLang/Argument.lean
  =========================
  **Arguments: named, typed values.**

  The kind of an argument is the kind of its value.  The kind `untyped` has no values; it exists
  because a declaration may fail to give a kind (see `CommandLang.Spec.Check`) and because a look-up
  may ask for it.
-/
import CommandLang.Color.Basic

namespace CommandLang

/-- The kinds that an argument may be declared with or asked for. -/
inductive Kind where
  | untyped
  | string
  | int
  | bool
  | color
deriving DecidableEq, Repr

/-- The word for a kind. -/
def Kind.label : Kind → Text
  | .untyped => "none"
  | .string => "str"
  | .int => "int"
  | .bool => "bool"
  | .color => "color"

/-- The value of an argument. -/
inductive Value where
  | string (text : Text)
  | int (number : Int)
  | bool (flag : Bool)
  | color (color : Color)
deriving DecidableEq, Repr

/-- The kind of a value. -/
def Value.kind : Value → Kind
  | .string _ => .string
  | .int _ => .int
  | .bool _ => .bool
  | .color _ => .color

/-! ### What a value of a kind holds -/

def Value.string? : Value → Option Text
  | .string t => some t
  | _ => none

def Value.int? : Value → Option Int
  | .int n => some n
  | _ => none

def Value.bool? : Value → Option Bool
  | .bool flag => some flag
  | _ => none

def Value.color? : Value → Option Color
  | .color c => some c
  | _ => none

/-! ### Written forms -/

/-- The written form of a value, as it may stand in a definition. -/
def Value.write : Value → Text
  | .string t => t
  | .int n => Numeral.write n
  | .bool true => "true"
  | .bool false => "false"
  | .color c => c.hex

/-- A named value. -/
structure Argument where
  name : Text
  value : Value
deriving DecidableEq, Repr

namespace Argument

/-- The kind of an argument. -/
def kind (a : Argument) : Kind := a.value.kind

/-- The written form `name=value`. -/
def write (a : Argument) : Text := a.name ++ "=" ++ a.value.write

end Argument

end CommandLang
