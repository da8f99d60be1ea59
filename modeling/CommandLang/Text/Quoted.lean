/-
  CommandLang/Text/Quoted.lean
  ============================
  **The quoted form of a text, used in error messages.**

  The text stands between apostrophes, or between quotation marks if it holds an apostrophe and no
  quotation mark.  The mark itself and the backslash are escaped, tab, line feed and carriage return
  have short escapes, and any other character that is not printable is written as `\xNN`, `\uNNNN`
  or `\UNNNNNNNN`, whichever is the first that holds its code point.
-/
import CommandLang.Text.Basic
import CommandLang.Text.Printable

namespace CommandLang.Text

/-- The code point in small hexadecimal digits, filled with zeros up to `width`. -/
def hexCode (width n : Nat) : Text :=
  let digits := Nat.toDigits 16 n
  List.replicate (width - digits.length) '0' ++ digits

/-- One character between quotation marks of the kind `mark`. -/
def quoteChar (mark c : Char) : Text :=
  if c = mark ∨ c = '\\' then ['\\', c]
  else if c = '\t' then "\\t"
  else if c = '\n' then "\\n"
  else if c = '\r' then "\\r"
  else if isPrintable c then [c]
  else if c.toNat < 0x100 then "\\x" ++ hexCode 2 c.toNat
  else if c.toNat < 0x10000 then "\\u" ++ hexCode 4 c.toNat
  else "\\U" ++ hexCode 8 c.toNat

/-- The text in quotation marks. -/
def quoted (t : Text) : Text :=
  let mark := if t.contains '\'' && !t.contains '"' then '"' else '\''
  mark :: t.flatMap (quoteChar mark) ++ [mark]

end CommandLang.Text
