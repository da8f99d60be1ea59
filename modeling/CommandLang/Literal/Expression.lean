/-
  CommandLang/Literal/Expression.lean
  ===================================
  **Reading an expression, and what is found wrong with it.**

  The tokens are matched against the grammar, and if that fails, they are matched again strictly to
  find out why.  A fault that the grammar finds may give way to another one: a place further on at
  which the text cannot be taken apart, or a parenthesis on an earlier line that is never closed
  (`Tokens.later?`).

  The fields of a form are expressions in their turn.  They are read as if they stood in
  parentheses, and their faults are said to be within a form.
-/
import CommandLang.Literal.Grammar

namespace CommandLang.Literal

/-- The rule for all of a text.  The end of a field is not looked for. -/
def Scope.match (steps : Nat) : Scope → Match Node
  | whole => do
    let a ← Rule.expressions.match steps
    let _ ← Match.many (Match.token .lineEnd)
    let _ ← Match.token .finish
    return a
  | field => Rule.starExpressions.match steps

abbrev CheckField := Quotation.Field → Except Fault Unit

namespace Tokens

/-- Matches the tokens from the first one on, some of which may have been looked at before. -/
def run (ts : Tokens) (check : CheckField) (scope : Scope) (strict : Bool) (seen : Nat) :
    Except Halt Node × Progress :=
  let steps := 70 * (ts.tokens.length + 1)
  ((scope.match steps).run ⟨ts.tokens.toArray, scope, check⟩).run.run
    { strict := strict, seen := seen }

def endFault (ts : Tokens) (scope : Scope) : Fault :=
  match ts.ending with
  | .complete => scope.fault .malformed
  | .refused fault => fault
  | .broken fault _ => scope.fault fault

/-- The last of the tokens that have been looked at. -/
def lastSeen? (ts : Tokens) (s : Progress) : Option Token := (ts.tokens.take s.seen).getLast?

/-- The fault that comes to light when the tokens are read on after those that have been looked
    at. -/
def later? (ts : Tokens) (scope : Scope) (s : Progress) : Option Fault :=
  match ts.ending with
  | .refused fault => some fault
  | .broken _ (some (opening, line)) =>
    if (ts.lastSeen? s).any (line < ·.line) then some (scope.fault (.neverClosed opening)) else none
  | _ => none

/-- A fault that the grammar finds, or one that comes to light when the tokens are read on. -/
def graver (ts : Tokens) (scope : Scope) (s : Progress) (fault : Fault) : Fault :=
  (ts.later? scope s).getD fault

/-- The fault of tokens that do not match, given how far they have been looked at. -/
def mismatchFault (ts : Tokens) (check : CheckField) (scope : Scope) (s : Progress) : Fault :=
  match ts.run check scope true s.seen with
  | (.error (.fault fault), strict) => ts.graver scope strict fault
  | (.error .outOfTokens, _) => ts.endFault scope
  | (_, strict) =>
    match (ts.lastSeen? s).map Token.kind with
    | some .indent => scope.fault .unexpectedIndent
    | some .dedent => scope.fault .unexpectedUnindent
    | _ => ts.graver scope strict (scope.fault .malformed)

def expression (ts : Tokens) (check : CheckField) (scope : Scope) : Except Fault Node :=
  match ts.run check scope false 0 with
  | (.ok a, _) => .ok a
  | (.error (.fault fault), s) => .error (ts.graver scope s fault)
  | (.error .outOfTokens, _) => .error (ts.endFault scope)
  | (.error .mismatch, s) => .error (ts.mismatchFault check scope s)

end Tokens

/-- Reads the field of a form, with forms in one another so many times at most. -/
def checkField : Nat → CheckField
  | 0, _ => .ok ()
  | forms + 1, field => do
    let inParentheses := '(' :: field.expression ++ [')', '\n']
    let _ ← (Tokens.ofText field.line inParentheses).expression (checkField forms) .field

def Node.read (t : Text) : Except Fault Node :=
  (Tokens.ofText 1 t).expression (checkField t.length) .whole

end CommandLang.Literal
