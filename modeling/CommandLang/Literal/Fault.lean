/-
  CommandLang/Literal/Fault.lean
  ==============================
  **What can be wrong with an expression.**

  A literal is an expression that says a value outright.  It is read in three steps, each with
  faults of its own: the text is taken apart into tokens, the tokens are matched against the
  grammar, and the expression is taken for a value.  A fault of the first two is a `Fault`, and of
  the third a `ValueFault`.

  Expressions are read as `ast.literal_eval` reads them in its releases 3.11.0 to 3.11.3.  Later ones
  find other faults in a few of the expressions that are wrong.
-/
import CommandLang.Numeral

namespace CommandLang.Literal

inductive Radix where
  | decimal
  | hexadecimal
  | octal
  | binary
  | imaginary
deriving DecidableEq, Repr

def Radix.label : Radix → Text
  | decimal => "decimal"
  | hexadecimal => "hexadecimal"
  | octal => "octal"
  | binary => "binary"
  | imaginary => "imaginary"

inductive Fault where
  -- Tokens
  | neverClosed (opening : Char)
  | unmatched (closing : Char)
  /-- A closing parenthesis of another kind than the opening one, which may be on another line. -/
  | mismatched (closing opening : Char) (line : Option Nat)
  | tooDeep
  | badNumber (radix : Radix)
  | badDigit (c : Char) (radix : Radix)
  | leadingZeros
  | numberTooLong (digits : Nat)
  | unterminated (triple : Bool) (line : Nat)
  | badCharacter (c : Char)
  | unexpectedEnd
  | afterBackslash
  | mixedIndents
  | tooManyIndents
  | unknownIndent
  | unexpectedIndent
  | unexpectedUnindent
  -- Quotations
  | bytesBeyondAscii
  | mixedQuotations
  /-- An escape that stands for nothing, from one position to another. -/
  | badEscape (first last : Nat) (reason : Text)
  | badByteEscape (position : Nat)
  | formEmpty
  | formMissing (before : Char)
  | formUnclosed
  | formLoneBrace
  | formBackslash
  | formComment
  | formUnmatched (c : Char)
  | formMismatched (closing opening : Char)
  | formTooDeep
  | formNested
  | formQuotation
  | formConversion
  -- Grammar
  | malformed
  | forgottenComma
  | missingElse
  | missingCall (name : Text)
  | equalsForName
  | equalsFor (what : Text)
  | walrusFor (what : Text)
  | assignment (what : Text)
  | assignmentInCall
  | unpackingAfterKeywords
  | plainAfterKeyword
  | plainAfterUnpacking
  | generatorInCall
  | starredHere
  | doubleStarredHere
  | starredComprehension
  | bareComprehension
  | unpackingComprehension
  | noValue
  | noColon
  | starredValue
  | defaultOrder
  | noDefault
  | lambdaParentheses
  | slashFirst
  | slashAgain
  | slashAfterStar
  | slashStar
  | starWithoutNames
  | starAgain
  | starDefault
  | doubleStarDefault
  | afterDoubleStar
  /-- A fault in an expression within a quotation. -/
  | inForm (fault : Fault)
deriving DecidableEq, Repr

/-- A character in capital hexadecimal digits, four at least. -/
def hexName (c : Char) : Text := (Text.hexCode 4 c.toNat).map Char.toUpper

def Fault.message : Fault → Text
  | neverClosed opening => "'" ++ [opening] ++ "' was never closed"
  | unmatched closing => "unmatched '" ++ [closing] ++ "'"
  | mismatched closing opening line =>
    "closing parenthesis '" ++ [closing] ++ "' does not match opening parenthesis '" ++ [opening] ++
      "'" ++ (line.map fun n => " on line " ++ Numeral.writeNat n).getD []
  | tooDeep => "too many nested parentheses"
  | badNumber radix => "invalid " ++ radix.label ++ " literal"
  | badDigit c radix => "invalid digit '" ++ [c] ++ "' in " ++ radix.label ++ " literal"
  | leadingZeros =>
    "leading zeros in decimal integer literals are not permitted; " ++
      "use an 0o prefix for octal integers"
  | numberTooLong digits =>
    (Numeral.Error.tooLong digits).message ++ " - Consider hexadecimal for huge integer " ++
      "literals to avoid decimal conversion limits."
  | unterminated triple line =>
    (if triple then "unterminated triple-quoted string" else "unterminated string" : Text) ++
      " literal (detected at line " ++ Numeral.writeNat line ++ ")"
  | badCharacter c =>
    if isPrintable c then "invalid character '" ++ [c] ++ "' (U+" ++ hexName c ++ ")"
    else "invalid non-printable character U+" ++ hexName c
  | unexpectedEnd => "unexpected EOF while parsing"
  | afterBackslash => "unexpected character after line continuation character"
  | mixedIndents => "inconsistent use of tabs and spaces in indentation"
  | tooManyIndents => "too many levels of indentation"
  | unknownIndent => "unindent does not match any outer indentation level"
  | unexpectedIndent => "unexpected indent"
  | unexpectedUnindent => "unexpected unindent"
  | bytesBeyondAscii => "bytes can only contain ASCII literal characters"
  | mixedQuotations => "cannot mix bytes and nonbytes literals"
  | badEscape first last reason =>
    "(unicode error) 'unicodeescape' codec can't decode bytes in position " ++
      Numeral.writeNat first ++ "-" ++ Numeral.writeNat last ++ ": " ++ reason
  | badByteEscape position =>
    "(value error) invalid \\x escape at position " ++ Numeral.writeNat position
  | formEmpty => "f-string: empty expression not allowed"
  | formMissing before => "f-string: expression required before '" ++ [before] ++ "'"
  | formUnclosed => "f-string: expecting '\x7d'"
  | formLoneBrace => "f-string: single '\x7d' is not allowed"
  | formBackslash => "f-string expression part cannot include a backslash"
  | formComment => "f-string expression part cannot include '#'"
  | formUnmatched c => "f-string: unmatched '" ++ [c] ++ "'"
  | formMismatched closing opening =>
    "f-string: closing parenthesis '" ++ [closing] ++ "' does not match opening parenthesis '" ++
      [opening] ++ "'"
  | formTooDeep => "f-string: too many nested parenthesis"
  | formNested => "f-string: expressions nested too deeply"
  | formQuotation => "f-string: unterminated string"
  | formConversion => "f-string: invalid conversion character: expected 's', 'r', or 'a'"
  | malformed => "invalid syntax"
  | forgottenComma => "invalid syntax. Perhaps you forgot a comma?"
  | missingElse => "expected 'else' after 'if' expression"
  | missingCall name =>
    "Missing parentheses in call to '" ++ name ++ "'. Did you mean " ++ name ++ "(...)?"
  | equalsForName => "invalid syntax. Maybe you meant '==' or ':=' instead of '='?"
  | equalsFor what => "cannot assign to " ++ what ++ " here. Maybe you meant '==' instead of '='?"
  | walrusFor what => "cannot use assignment expressions with " ++ what
  | assignment what => "cannot assign to " ++ what
  | assignmentInCall => "expression cannot contain assignment, perhaps you meant \"==\"?"
  | unpackingAfterKeywords => "iterable argument unpacking follows keyword argument unpacking"
  | plainAfterKeyword => "positional argument follows keyword argument"
  | plainAfterUnpacking => "positional argument follows keyword argument unpacking"
  | generatorInCall => "Generator expression must be parenthesized"
  | starredHere => "cannot use starred expression here"
  | doubleStarredHere => "cannot use double starred expression here"
  | starredComprehension => "iterable unpacking cannot be used in comprehension"
  | bareComprehension => "did you forget parentheses around the comprehension target?"
  | unpackingComprehension => "dict unpacking cannot be used in dict comprehension"
  | noValue => "expression expected after dictionary key and ':'"
  | noColon => "':' expected after dictionary key"
  | starredValue => "cannot use a starred expression in a dictionary value"
  | defaultOrder => "non-default argument follows default argument"
  | noDefault => "expected default value expression"
  | lambdaParentheses => "Lambda expression parameters cannot be parenthesized"
  | slashFirst => "at least one argument must precede /"
  | slashAgain => "/ may appear only once"
  | slashAfterStar => "/ must be ahead of *"
  | slashStar => "expected comma between / and *"
  | starWithoutNames => "named arguments must follow bare *"
  | starAgain => "* argument may appear only once"
  | starDefault => "var-positional argument cannot have default value"
  | doubleStarDefault => "var-keyword argument cannot have default value"
  | afterDoubleStar => "arguments cannot follow var-keyword argument"
  | inForm fault => "f-string: " ++ fault.message

inductive ValueFault where
  | nullCharacter
  | unpacking
  /-- A member of a set, or a key, may not be one. -/
  | unhashable (kind : Text)
  /-- A whole number is too large to be added to an imaginary one. -/
  | tooLarge
  | notLiteral
deriving DecidableEq, Repr

def ValueFault.message : ValueFault → Text
  | nullCharacter => "source code string cannot contain null bytes"
  | unpacking => "malformed node or string: None"
  | unhashable kind => "unhashable type: '" ++ kind ++ "'"
  | tooLarge => "int too large to convert to float"
  | notLiteral => "malformed node or string"

end CommandLang.Literal
