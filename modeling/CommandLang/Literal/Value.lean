/-
  CommandLang/Literal/Value.lean
  ==============================
  **Which expressions are literals.**

  A literal says a value outright: a number, perhaps with a sign, a whole or real number to which an
  imaginary one is added, a constant, a text, bytes, or a tuple, set or dictionary of literals.
  `set()` is the empty set.  The members of sets and the keys of dictionaries must not be, or hold,
  sets or dictionaries themselves.
-/
import CommandLang.Literal.Expression

namespace CommandLang.Literal

/-- The type of a member that is no member of sets. -/
abbrev Unhashable := Option Text

/-- The least whole number that is too large to be added to an imaginary one. -/
def largeNumber : Nat := Nat.pow 2 1024 - Nat.pow 2 970

namespace Node

def unsigned : Node → Except ValueFault Number
  | number n => .ok n
  | _ => .error .notLiteral

def signed : Node → Except ValueFault Number
  | unary sign operand =>
    if sign == ("+" : Text) || sign == ("-" : Text) then operand.unsigned
    else .error .notLiteral
  | other => other.unsigned

/-- Checks a number, or two of them with a sign between. -/
def checkNumber : Node → Except ValueFault Unit
  | binary sign left right => do
    unless sign == ("+" : Text) || sign == ("-" : Text) do throw .notLiteral
    match ← left.signed, ← right.unsigned with
    | .whole n, .imaginary => if largeNumber ≤ n then throw .tooLarge
    | .real, .imaginary => return
    | _, _ => throw .notLiteral
  | other => do let _ ← other.signed

def checkMember : Unhashable → Except ValueFault Unit
  | some kind => .error (.unhashable kind)
  | none => .ok ()

mutual

/-- Checks that an expression is a literal, and says whether its value may be a member. -/
def checkValue : Node → Except ValueFault Unhashable
  | constant _ | text | bytes => .ok none
  | tuple members => checkMembers members
  | set members => do
    checkHashable members
    return some "set"
  | call (name n) [] => if n == ("set" : Text) then .ok (some "set") else .error .notLiteral
  | dictionary entries => do
    checkEntries entries
    return some "dict"
  | other => do
    other.checkNumber
    return none

/-- Checks the members of a tuple, and says whether all of them may be members of sets. -/
def checkMembers : List Node → Except ValueFault Unhashable
  | [] => .ok none
  | n :: others => do
    let kind ← checkValue n
    return kind.or (← checkMembers others)

def checkHashable : List Node → Except ValueFault Unit
  | [] => .ok ()
  | n :: others => do
    checkMember (← checkValue n)
    checkHashable others

def checkEntries : List Node → Except ValueFault Unit
  | [] => .ok ()
  | entry key value :: others => do
    let kind ← checkValue key
    let _ ← checkValue value
    checkMember kind
    checkEntries others
  | _ => .error .unpacking

end

end Node

/-- What is wrong with a text that is to be a literal. -/
inductive Error where
  | unreadable (fault : Fault)
  | noValue (fault : ValueFault)
deriving DecidableEq, Repr

def check (t : Text) : Except Error Unit := do
  if t.contains '\x00' then throw (.noValue .nullCharacter)
  let a ← (Node.read t).mapError .unreadable
  let _ ← a.checkValue.mapError .noValue

end CommandLang.Literal
