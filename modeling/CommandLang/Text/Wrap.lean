/-
  CommandLang/Text/Wrap.lean
  ==========================
  **Where a line of text is broken.**

  A line that is too wide is broken between words.  A word is taken together with the blanks after
  it, and the first one also with the blanks before it; only the word itself has to fit.  A word
  that fits on no line is broken anywhere if folding is allowed, and else it has a line of its own
  on which it is too wide.  A text of nothing but blanks is not broken.
-/
import CommandLang.Text.Blank
import CommandLang.Text.Cells

namespace CommandLang.Text

/-- The words of a text with the blanks around them: all of the text, unless it has no word. -/
def wordPieces (t : Text) : List Text :=
  match _h : t.dropWhile isBlank with
  | [] => []
  | c :: r =>
    let rest := r.dropWhile (!isBlank ·)
    (t.takeWhile isBlank ++ c :: r.takeWhile (!isBlank ·) ++ rest.takeWhile isBlank) ::
      wordPieces (rest.dropWhile isBlank)
termination_by t.length
decreasing_by
  have h1 := (List.dropWhile_suffix (l := r.dropWhile (!isBlank ·)) isBlank).length_le
  have h2 := (List.dropWhile_suffix (l := r) (!isBlank ·)).length_le
  have h3 := (List.dropWhile_suffix (l := t) isBlank).length_le
  rw [_h, List.length_cons] at h3
  omega

/-- The positions at which pieces begin, the first of which begins at `start`. -/
def starts (start : Nat) : List Text → List Nat
  | [] => []
  | piece :: rest => start :: starts (start + piece.length) rest

/-- The positions at which the words are put on a new line.  The first of the words begins at the
    position `start`, and what stands before it on its line is `used` wide. -/
def wordBreaks (width : Nat) (fold : Bool) (start used : Nat) : List Text → List Nat
  | [] => []
  | word :: rest =>
    let next := start + word.length
    let size := cells word.trimRight
    if used + size ≤ width then wordBreaks width fold next (used + cells word) rest
    else if size ≤ width then start :: wordBreaks width fold next (cells word) rest
    else if fold then
      let lines := chop width word
      (starts start lines).filter (0 < ·) ++
        wordBreaks width fold next (cells (lines.getLast?.getD [])) rest
    else (if 0 < start then [start] else []) ++ wordBreaks width fold next (cells word) rest

/-- The positions at which a text is broken into lines that are at most `width` wide.  Without
    folding, a word may be too wide for its line. -/
def breaks (width : Nat) (fold : Bool) (t : Text) : List Nat :=
  wordBreaks width fold 0 0 t.wordPieces

end CommandLang.Text
