/-
  CommandLang/Text/Letter.lean
  ============================
  **Characters of names and of words.**

  A name begins with a letter or a low line, and goes on with letters, digits, joiners and low
  lines.  The characters of words are much the same, with numerals in place of the joiners.
-/
import CommandLang.Text.Digit
import CommandLang.Text.LetterRanges

namespace CommandLang

/-- A character that a name may begin with. -/
def isNameStart (c : Char) : Bool :=
  if c.toNat < 0x80 then c.isAlpha || c == '_' else letterRanges.covers c.toNat

/-- A character that may stand in a name. -/
def isNameChar (c : Char) : Bool :=
  if c.toNat < 0x80 then c.isAlphanum || c == '_'
  else letterRanges.covers c.toNat || isDigit c || joinerRanges.covers c.toNat

/-- The letters that do not count in words: two marks and two signs. -/
def unspokenLetters : List Nat := [0x1885, 0x1886, 0x2118, 0x212E]

/-- A character of a word. -/
def isWordChar (c : Char) : Bool :=
  if c.toNat < 0x80 then c.isAlphanum || c == '_'
  else (letterRanges.covers c.toNat && !unspokenLetters.contains c.toNat) || isDigit c ||
    numeralRanges.covers c.toNat

end CommandLang
