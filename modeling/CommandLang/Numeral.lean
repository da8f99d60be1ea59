/-
  CommandLang/Numeral.lean
  ========================
  **Whole numbers in text.**

  Numbers are read from digits of any script and written in ASCII digits.  Two readings are in use:

    * `leading`  the number that a text begins with, and 0 if it begins with none;
    * `whole`    a text that is nothing but a number, padding aside.

  Both refuse a run of more than `maxDigits` digits, leading zeros counted and the sign not.
-/
import CommandLang.Text.Blank
import CommandLang.Text.Digit
import CommandLang.Text.Quoted

namespace CommandLang.Numeral

def maxDigits : Nat := 4300

inductive Error where
  | tooLong (digits : Nat)
  | malformed (written : Text)
deriving DecidableEq, Repr

/-! ### Writing -/

def writeNat (n : Nat) : Text := Nat.toDigits 10 n

/-- A whole number in decimal digits, with a minus sign if it is negative. -/
def write : Int → Text
  | .ofNat n => writeNat n
  | .negSucc n => '-' :: writeNat (n + 1)

/-- At most this many characters of a malformed number are shown. -/
def shownCharacters : Nat := 200

def Error.message : Error → Text
  | .tooLong digits =>
    "Exceeds the limit (4300 digits) for integer string conversion: value has " ++
      writeNat digits ++ " digits; use sys.set_int_max_str_digits() to increase the limit"
  | .malformed written =>
    "invalid literal for int() with base 10: " ++ written.quoted.take shownCharacters

/-! ### Reading -/

def ofDigits (run : Text) : Nat := run.foldl (fun n c => 10 * n + (digitValue? c).getD 0) 0

def readDigits (run : Text) : Except Error Nat :=
  if maxDigits < run.length then .error (.tooLong run.length) else .ok (ofDigits run)

/-- Whether a text begins with a minus sign, and what follows its sign if it has one. -/
def splitSign : Text → Bool × Text
  | '-' :: t => (true, t)
  | '+' :: t => (false, t)
  | t => (false, t)

/-- The number that a text begins with: blanks, an optional sign and digits, as many as there are.
    A text that begins otherwise counts as 0. -/
def leading (t : Text) : Except Error Int :=
  let (negative, body) := splitSign t.trimLeft
  let run := body.takeWhile isDigit
  if run.isEmpty then .ok 0
  else (readDigits run).map fun n => if negative then -(n : Int) else n

/-- The blanks that may stand around a number: all but the four separators U+001C to U+001F. -/
def isPadding (c : Char) : Bool := isBlank c && !(0x1C ≤ c.toNat && c.toNat ≤ 0x1F)

/-- A text that is one unsigned number with padding on either side.  A run that is too long is
    reported as such even if something else is wrong after it. -/
def whole (t : Text) : Except Error Nat := do
  let body := t.dropWhile isPadding
  let run := body.takeWhile isDigit
  let n ← readDigits run
  if run.isEmpty || !(body.dropWhile isDigit).all isPadding then .error (.malformed t)
  else .ok n

end CommandLang.Numeral
