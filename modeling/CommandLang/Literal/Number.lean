/-
  CommandLang/Literal/Number.lean
  ===============================
  **Numbers in expressions.**

  A number is written in decimal, hexadecimal, octal or binary notation, and a decimal one may have
  a fraction, an exponent and a `j`, which makes it imaginary.  Single low lines may stand between
  digits.  All digits are those of ASCII.

    * `afterNumber`  gives what follows the number at the head of a text, whatever its value;
    * `Number.read`  gives the value of a number that stands alone.
-/
import CommandLang.Literal.Fault

namespace CommandLang.Literal

/-! ### Where a number ends -/

/-- A character that might stand in a name. -/
def mayBeInName (c : Char) : Bool := c.isAlphanum || c == '_' || 0x80 ≤ c.toNat

/-- The words that may follow a number without a space. -/
def wordsAfterNumber : List Text := ["and", "else", "for", "or", "not"]

/-- Whether a number may be followed by a text.  A letter beyond ASCII begins a name there. -/
def mayFollowNumber (t : Text) : Bool :=
  match t with
  | [] => true
  | 'i' :: 'f' :: _ | 'i' :: 'n' :: _ | 'i' :: 's' :: _ => true
  | c :: _ =>
    !(c.isAlphanum || c == '_') ||
      wordsAfterNumber.any fun word =>
        t.take word.length == word && ((t.drop word.length).head?.all fun d => !mayBeInName d)

def endNumber (radix : Radix) (t : Text) : Except Fault Text :=
  if mayFollowNumber t then .ok t else .error (.badNumber radix)

/-- What follows the rest of a run of decimal digits; a low line in it is followed by a digit. -/
def afterDigits : Text → Except Fault Text
  | '_' :: c :: t => if c.isDigit then afterDigits t else .error (.badNumber .decimal)
  | ['_'] => .error (.badNumber .decimal)
  | c :: t => if c.isDigit then afterDigits t else .ok (c :: t)
  | [] => .ok []

/-- What follows the `j` of a number, if it has one. -/
def afterUnit : Text → Except Fault Text
  | 'j' :: t | 'J' :: t => endNumber .imaginary t
  | t => endNumber .decimal t

/-- What follows the exponent of a number, of which the letter has been read. -/
def afterExponent (letter : Char) : Text → Except Fault Text
  | c :: t =>
    if c = '+' || c = '-' then
      match t with
      | d :: r =>
        if d.isDigit then do afterUnit (← afterDigits r) else .error (.badNumber .decimal)
      | [] => .error (.badNumber .decimal)
    else if c.isDigit then do afterUnit (← afterDigits t)
    else endNumber .decimal (letter :: c :: t)
  | [] => endNumber .decimal [letter]

/-- What follows a number from its exponent on, if it has one. -/
def afterScale : Text → Except Fault Text
  | c :: t => if c = 'e' || c = 'E' then afterExponent c t else afterUnit (c :: t)
  | [] => .ok []

/-- What follows a number from the digits of its fraction on. -/
def afterFraction : Text → Except Fault Text
  | c :: t => if c.isDigit then do afterScale (← afterDigits t) else afterScale (c :: t)
  | [] => .ok []

/-- What follows a number whose whole digits have been read. -/
def afterWhole : Text → Except Fault Text
  | '.' :: t => afterFraction t
  | t => afterScale t

def Radix.isDigit (radix : Radix) (c : Char) : Bool :=
  match radix with
  | hexadecimal => c.isDigit || ('a' ≤ c && c ≤ 'f') || ('A' ≤ c && c ≤ 'F')
  | octal => '0' ≤ c && c ≤ '7'
  | binary => c == '0' || c == '1'
  | _ => c.isDigit

/-- The fault of a number in which a digit is missing or does not belong to its notation. -/
def missingDigit (radix : Radix) : Text → Fault
  | c :: _ => if c.isDigit && radix != .hexadecimal then .badDigit c radix else .badNumber radix
  | [] => .badNumber radix

/-- What follows a number after the letter that tells its notation.  A digit has to come first and
    after every low line. -/
def afterRadix (radix : Radix) (needed : Bool) : Text → Except Fault Text
  | '_' :: c :: t =>
    if radix.isDigit c then afterRadix radix false t else .error (missingDigit radix (c :: t))
  | ['_'] => .error (.badNumber radix)
  | c :: t =>
    if radix.isDigit c then afterRadix radix false t
    else if needed then .error (missingDigit radix (c :: t))
    else if c.isDigit then .error (.badDigit c radix)
    else endNumber radix (c :: t)
  | [] => if needed then .error (.badNumber radix) else .ok []

/-- What follows a number that begins with zeros. -/
def afterZeros : Text → Except Fault Text
  | '_' :: c :: t =>
    if !c.isDigit then .error (.badNumber .decimal)
    else if c = '0' then afterZeros t
    else do afterLeadingZeros (← afterDigits t)
  | ['_'] => .error (.badNumber .decimal)
  | c :: t =>
    if c = '0' then afterZeros t
    else if c.isDigit then do afterLeadingZeros (← afterDigits t)
    else afterWhole (c :: t)
  | [] => .ok []
where
  /-- Zeros before other digits are allowed only where a fraction, an exponent or a `j` follows. -/
  afterLeadingZeros : Text → Except Fault Text
  | c :: t =>
    if ['.', 'e', 'E', 'j', 'J'].contains c then afterWhole (c :: t) else .error .leadingZeros
  | [] => .error .leadingZeros

/-- What follows the number that a text begins with. -/
def afterNumber : Text → Except Fault Text
  | '.' :: t => afterFraction t
  | '0' :: 'x' :: t | '0' :: 'X' :: t => afterRadix .hexadecimal true t
  | '0' :: 'o' :: t | '0' :: 'O' :: t => afterRadix .octal true t
  | '0' :: 'b' :: t | '0' :: 'B' :: t => afterRadix .binary true t
  | '0' :: t => afterZeros t
  | _ :: t => do afterWhole (← afterDigits t)
  | [] => .ok []

/-! ### Values -/

/-- The value of a number, as far as it matters: that of whole numbers alone. -/
inductive Number where
  | whole (n : Nat)
  | real
  | imaginary
deriving DecidableEq, Repr

def digitsValue (base : Nat) (digits : Text) : Nat :=
  digits.foldl (fun n c => base * n + (hexDigitValue c)) 0
where
  hexDigitValue (c : Char) : Nat :=
    if c.isDigit then c.toNat - '0'.toNat else c.toLower.toNat - 'a'.toNat + 10

/-- The value of a number that is written so.  A long run of decimal digits is not read unless all
    of them are zeros. -/
def Number.read (written : Text) : Except Fault Number :=
  match written.filter (· != '_') with
  | '0' :: 'x' :: digits | '0' :: 'X' :: digits => .ok (.whole (digitsValue 16 digits))
  | '0' :: 'o' :: digits | '0' :: 'O' :: digits => .ok (.whole (digitsValue 8 digits))
  | '0' :: 'b' :: digits | '0' :: 'B' :: digits => .ok (.whole (digitsValue 2 digits))
  | digits =>
    if digits.any fun c => c = 'j' || c = 'J' then .ok .imaginary
    else if digits.any fun c => c = '.' || c = 'e' || c = 'E' then .ok .real
    else if Numeral.maxDigits < digits.length && digits.any (· != '0') then
      .error (.numberTooLong digits.length)
    else .ok (.whole (digitsValue 10 digits))

end CommandLang.Literal
