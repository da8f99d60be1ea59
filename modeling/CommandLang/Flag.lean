/-
  CommandLang/Flag.lean
  =====================
  **The words for yes and no.**
-/
import CommandLang.Text.Fold

namespace CommandLang.Flag

def yesWords : List Text := ["1", "true", "yes"]

def noWords : List Text := ["0", "false", "no"]

/-- What a word says of a flag, letter case aside; most words say nothing. -/
def read? (word : Text) : Option Bool :=
  if yesWords.contains word.fold then some true
  else if noWords.contains word.fold then some false
  else none

end CommandLang.Flag
