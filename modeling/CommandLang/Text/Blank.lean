/-
  CommandLang/Text/Blank.lean
  ===========================
  **Blank characters and trimming.**

  A blank is one of the 29 characters that Unicode counts as white space or that separate lines,
  paragraphs, files, groups, records and units.  Trimming removes blanks from the ends of a text;
  it is wider than `Text.dropSpaces`, which removes U+0020 alone.  Words are what stands between
  blanks.
-/
import CommandLang.Text.Basic

namespace CommandLang

/-- The white space characters and separators, by code point. -/
def isBlankCode (n : Nat) : Bool :=
  (0x09 ≤ n && n ≤ 0x0D) || (0x1C ≤ n && n ≤ 0x20) || n == 0x85 || n == 0xA0 || n == 0x1680 ||
  (0x2000 ≤ n && n ≤ 0x200A) || n == 0x2028 || n == 0x2029 || n == 0x202F || n == 0x205F ||
  n == 0x3000

/-- A blank: white space in the widest sense. -/
def isBlank (c : Char) : Bool := isBlankCode c.toNat

namespace Text

def trimLeft (t : Text) : Text := t.dropWhile isBlank

def trimRight (t : Text) : Text := (t.reverse.dropWhile isBlank).reverse

def trim (t : Text) : Text := t.trimLeft.trimRight

/-- Nothing but blanks, or nothing at all. -/
def isAllBlank (t : Text) : Bool := t.all isBlank

/-- The pieces between blanks, without those that are empty. -/
def words (t : Text) : List Text :=
  ((t.map fun c => if isBlank c then ' ' else c).splitOn ' ').filter (!·.isEmpty)

theorem trimLeft_suffix (t : Text) : t.trimLeft <:+ t := List.dropWhile_suffix _

end Text

end CommandLang
