/-
  CommandLang/Text/Lower.lean
  ===========================
  **Writing a text in small letters.**

  Each character has a small form of its own, with one exception: a capital sigma becomes a final
  sigma at the end of a word and the other small sigma elsewhere.  It ends a word if a cased
  character comes right before it and none right after it, case-ignorable characters being passed
  over on both sides.

  This is not a folding: `ß` and `ss`, or the two small sigmas, stay apart here and fall together in
  `Text.fold`.
-/
import CommandLang.Text.Basic
import CommandLang.Text.Cased
import CommandLang.Text.LowerRuns

namespace CommandLang

/-- The small form of a character by itself. -/
def lowerChar (c : Char) : Text :=
  if c.toNat < 0x80 then [c.toLower]
  else if c = '\u0130' then ['i', '\u0307']
  else match lowerRuns.find? (·.covers c.toNat) with
    | some run => [Char.ofNat (run.image c.toNat)]
    | none => [c]

namespace Text

/-- Whether the first character that is not passed over is cased. -/
def beginsCased (t : Text) : Bool :=
  match t.dropWhile isCaseIgnorable with
  | c :: _ => isCased c
  | [] => false

/-- The small form of a capital sigma between two texts, the first of them read backwards. -/
def lowerSigma (before after : Text) : Char :=
  if beginsCased before && !beginsCased after then '\u03C2' else '\u03C3'

/-- A text in small letters, given what stands before it, read backwards. -/
def lowerAfter (before : Text) : Text → Text
  | [] => []
  | c :: t =>
    (if c = '\u03A3' then [lowerSigma before t] else lowerChar c) ++ lowerAfter (c :: before) t

/-- A text in small letters. -/
def lower (t : Text) : Text := lowerAfter [] t

end Text

end CommandLang
