/-
  CommandLang/Text/Name.lean
  ==========================
  **Recognising a name at the head of a text.**

  Names are compared without regard to letter case.  A name is recognised in as many characters as
  it has itself: the text is cut to the length of the name before both are folded.
-/
import CommandLang.Text.Fold

namespace CommandLang.Text

/-- The text begins with the name, letter case aside. -/
def opensWith (t name : Text) : Bool := fold (t.take name.length) == fold name

theorem opensWith_iff {t name : Text} :
    t.opensWith name ↔ fold (t.take name.length) = fold name := beq_iff_eq

/-- The text is the name, or the name directly followed by `=` and anything, letter case aside. -/
def denotes (t name : Text) : Bool :=
  fold t == fold name || (t.opensWith name && (t.drop name.length).head? == some '=')

end CommandLang.Text
