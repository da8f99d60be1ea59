/-
  CommandLang/Literal/Matching.lean
  =================================
  **Matching tokens against rules.**

  A rule is tried at a place among the tokens.  It matches some of them, or none and then the next
  alternative is tried at the same place, or it finds a fault and that is the end.  What a rule has
  given at a place is kept, so that no rule works twice at one place.

  Some rules match only what is wrong; they count when the tokens are read strictly.  The rules in
  `Rule.isShared` give at a place what they have given there first, strictly or not.
-/
import CommandLang.Literal.Quotation
import Std.Data.HashMap

namespace CommandLang.Literal

/-- The rules that are kept at their places. -/
inductive Rule where
  | expressions
  | starExpressions
  | starExpression
  | expression
  | lenientExpression
  | namedExpression
  | wrongNamedExpression
  | disjunction
  | conjunction
  | inversion
  | comparison
  | bitwiseOr
  | bitwiseXor
  | bitwiseAnd
  | shift
  | sum
  | term
  | factor
  | power
  | awaited
  | primary
  | atom
  | quotations
  | tuple
  | generator
  | arguments
  | argumentList
  | starTarget
  | starAtomTarget
  | targetPrimary
deriving DecidableEq, Hashable, Repr

/-- The rules that give the same whether the tokens are read strictly or not. -/
def Rule.isShared : Rule → Bool
  | starExpression | expression | wrongNamedExpression | disjunction | conjunction | inversion
  | bitwiseOr | bitwiseXor | bitwiseAnd | shift | sum | term | factor | awaited | primary
  | quotations | arguments | starTarget | starAtomTarget | targetPrimary => true
  | _ => false

/-- What is read: a text that is an expression, or the field of a form. -/
inductive Scope where
  | whole
  | field
deriving DecidableEq, Repr

/-- How a fault is said that is found here. -/
def Scope.fault : Scope → Fault → Fault
  | whole, fault => fault
  | field, fault => .inForm fault

structure Source where
  tokens : Array Token
  scope : Scope
  checkField : Quotation.Field → Except Fault Unit

structure Progress where
  position : Nat := 0
  seen : Nat := 0
  strict : Bool
  /-- What the rules have given at their places, and the place after that. -/
  known : Std.HashMap (Rule × Nat × Bool) (Option (Node × Nat)) := {}

inductive Halt where
  | mismatch
  | fault (fault : Fault)
  /-- It would need the token after the last. -/
  | outOfTokens
deriving DecidableEq, Repr

abbrev Match := ReaderT Source (ExceptT Halt (StateM Progress))

namespace Match

variable {α β : Type}

/-! ### Single tokens -/

def mismatch : Match α := throw .mismatch

def raise (fault : Fault) : Match α := do throw (.fault ((← read).scope.fault fault))

def require (condition : Bool) : Match Unit := unless condition do mismatch

def peek : Match Token := do
  let position := (← get).position
  match (← read).tokens[position]? with
  | some token =>
    modify fun s => { s with seen := max s.seen (position + 1) }
    return token
  | none => throw .outOfTokens

def token (kind : Token.Kind) : Match Token := do
  let token ← peek
  require (token.kind == kind)
  modify fun s => { s with position := s.position + 1 }
  return token

def fixed (written : String) : Match Text := do
  require ((← peek).text == written.toList)
  return (← token .fixed).text

def name : Match Text := do return (← token .name).text

/-- How many parentheses are open after the token that was matched last. -/
def depth : Match Nat := do
  return ((← read).tokens[(← get).position - 1]?.map (·.depth)).getD 0

/-! ### Combinations -/

/-- Goes back to the place where it began if a rule does not match. -/
def attempt (p : Match α) : Match (Option α) := do
  let start := (← get).position
  try
    return some (← p)
  catch
    | .mismatch =>
      modify fun s => { s with position := start }
      return none
    | halt => throw halt

/-- Goes on with one of two rules, as the first one matches or not. -/
def ifMatches (p : Match α) (next : α → Match β) (otherwise : Match β) : Match β := do
  match ← attempt p with
  | some a => next a
  | none => otherwise

def firstOf : List (Match α) → Match α
  | [] => mismatch
  | [p] => p
  | p :: others => ifMatches p pure (firstOf others)

def anyFixed (written : List String) : Match Text := firstOf (written.map fixed)

def wouldMatch (p : Match α) : Match Bool := do
  let start := (← get).position
  let a ← attempt p
  modify fun s => { s with position := start }
  return a.isSome

/-- A rule matches here, and nothing is taken. -/
def ahead (p : Match α) : Match Unit := do require (← wouldMatch p)

def notAhead (p : Match α) : Match Unit := do require !(← wouldMatch p)

/-- A rule as often as it matches, so many times at most. -/
def upTo (p : Match α) : Nat → Match (List α)
  | 0 => return []
  | times + 1 => ifMatches p (fun a => return a :: (← upTo p times)) (pure [])

def many (p : Match α) : Match (List α) := do upTo p (← read).tokens.size

/-- A rule as often as it matches, once at least. -/
def many1 (p : Match α) : Match (List α) := do return (← p) :: (← many p)

/-- A rule once at least, with commas between. -/
def commaSeparated (p : Match α) : Match (List α) := do
  return (← p) :: (← many (fixed "," *> p))

/-! ### Strictness and memory -/

/-- A rule that counts only if the tokens are read strictly. -/
def strictly (p : Match α) : Match α := do
  require (← get).strict
  p

def leniently (p : Match α) : Match α := do
  let strict := (← get).strict
  modify fun s => { s with strict := false }
  let a ← attempt p
  modify fun s => { s with strict := strict }
  match a with
  | some a => return a
  | none => mismatch

/-- Gives what a rule has given here, or tries it. -/
def remember (rule : Rule) (p : Match Node) : Match Node := do
  let s ← get
  let key := (rule, s.position, s.strict && !rule.isShared)
  let known ← match s.known[key]? with
    | some known => pure known
    | none =>
      let node? ← attempt p
      let found ← node?.mapM fun node => return (node, (← get).position)
      modify fun s => { s with known := s.known.insert key found }
      pure found
  match known with
  | some (node, position) =>
    modify fun s => { s with position := position }
    return node
  | none => mismatch

end Match

end CommandLang.Literal
