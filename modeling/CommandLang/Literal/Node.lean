/-
  CommandLang/Literal/Node.lean
  =============================
  **Expressions.**

  An expression is kept as far as it matters later: to find out its value, and to say what it is
  when it stands where it must not.  So tuples, sets and dictionaries have their members, and a
  comprehension is known as such and nothing more.
-/
import CommandLang.Literal.Number

namespace CommandLang.Literal

inductive Constant where
  | yes
  | no
  | nothing
  | dots
deriving DecidableEq, Repr

def Constant.written : Constant → Text
  | yes => "True"
  | no => "False"
  | nothing => "None"
  | dots => "..."

/-- An expression, or a part of one: entries, keywords and arguments stand in others only. -/
inductive Node where
  | name (name : Text)
  | number (value : Number)
  | constant (value : Constant)
  | text
  | bytes
  | form
  | tuple (members : List Node)
  | set (members : List Node)
  | dictionary (entries : List Node)
  /-- A key of a dictionary with its value. -/
  | entry (key value : Node)
  | unpacked
  | keyword
  | starred (value : Node)
  | arguments (given : List Node)
  | call (function : Node) (given : List Node)
  | member
  | unary (sign : Text) (operand : Node)
  | binary (sign : Text) (left right : Node)
  | boolean
  | comparison (sign : Text) (left : Node)
  | conditional
  | lambda
  | named
  | awaited
  | yielded
  | generator
  | setComprehension
  | dictionaryComprehension

namespace Node

def description : Node → Text
  | name _ => "name"
  | constant .dots => "ellipsis"
  | constant value => value.written
  | number _ | text | bytes => "literal"
  | form => "f-string expression"
  | tuple _ => "tuple"
  | set _ => "set display"
  | dictionary _ => "dict literal"
  | starred _ => "starred"
  | call _ _ => "function call"
  | member => "attribute"
  | comparison _ _ => "comparison"
  | conditional => "conditional expression"
  | lambda => "lambda"
  | named => "named expression"
  | awaited => "await expression"
  | yielded => "yield expression"
  | generator => "generator expression"
  | setComprehension => "set comprehension"
  | dictionaryComprehension => "dict comprehension"
  | _ => "expression"

def given : Node → List Node
  | arguments given => given
  | _ => []

/-- Whether an argument is given by its place. -/
def isPositional : Node → Bool
  | keyword | unpacked => false
  | _ => true

/-- Whether all the entries of a dictionary are given. -/
def isUnpacked : Node → Bool
  | unpacked => true
  | _ => false

mutual

/-- The first part of an expression that cannot be assigned to by a `for`. -/
def wrongTarget? : Node → Option Node
  | name _ | member => none
  | tuple members => wrongMember? members
  | starred value => wrongTarget? value
  | comparison sign left => if sign == ("in" : Text) then wrongTarget? left else none
  | other => some other

/-- The first part of some expressions that cannot be assigned to. -/
def wrongMember? : List Node → Option Node
  | [] => none
  | n :: others => (wrongTarget? n).or (wrongMember? others)

end

end Node

end CommandLang.Literal
