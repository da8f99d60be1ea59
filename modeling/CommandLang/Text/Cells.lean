/-
  CommandLang/Text/Cells.lean
  ===========================
  **The width of a text on a screen.**

  A screen is a grid of cells.  Most characters take one of them, some take none and some take two,
  so that the width of a text is not its length.

    * `fit`      makes a text exactly as wide as is asked for;
    * `chop`     breaks a text into lines of limited width, between any two characters.
-/
import CommandLang.Text.Basic
import CommandLang.Text.CellRanges

namespace CommandLang

/-- The number of cells that a character takes. -/
def charCells (c : Char) : Nat :=
  if ' ' ≤ c && c ≤ '~' then 1
  else if zeroWidthRanges.covers c.toNat then 0
  else if doubleWidthRanges.covers c.toNat then 2
  else 1

namespace Text

/-- The number of cells that a text takes. -/
def cells : Text → Nat
  | [] => 0
  | c :: t => charCells c + cells t

/-- A row of spaces. -/
def spaces (n : Nat) : Text := List.replicate n ' '

@[simp] theorem cells_nil : cells [] = 0 := rfl

@[simp] theorem cells_cons (c : Char) (t : Text) : cells (c :: t) = charCells c + cells t := rfl

@[simp] theorem cells_append (s t : Text) : cells (s ++ t) = cells s + cells t := by
  induction s with
  | nil => simp
  | cons c s ih => simp [ih, Nat.add_assoc]

@[simp] theorem cells_spaces (n : Nat) : cells (spaces n) = n := by
  have h : charCells ' ' = 1 := by decide
  induction n with
  | zero => rfl
  | succ n ih => rw [spaces, List.replicate_succ, cells_cons, ← spaces, ih, h, Nat.add_comm]

/-! ### Making a text as wide as is asked for -/

/-- Looks for a beginning of a text that is `width` wide, by halving: beginnings of up to `low`
    characters are too narrow and the one of `high + 1` characters is too wide.  If the cut would go
    through a character of two cells, a space takes its place. -/
def beginningOfWidth (width : Nat) (t : Text) (low high : Nat) : Nat → Text
  | 0 => []
  | steps + 1 =>
    let middle := (low + high) / 2
    let beginning : Text := t.take (middle + 1)
    if beginning.cells = width + 1 ∧ (beginning.getLast?.map charCells) = some 2 then
      beginning.dropLast ++ [' ']
    else if beginning.cells = width then beginning
    else if width < beginning.cells then beginningOfWidth width t low middle steps
    else beginningOfWidth width t middle high steps

/-- The text made exactly as wide as is asked for: filled with spaces or cut off. -/
def fit (width : Nat) (t : Text) : Text :=
  if t.cells ≤ width then t ++ spaces (width - t.cells)
  else if width = 0 then []
  else beginningOfWidth width t 0 t.length (t.length + 1)

/-- The text with as many spaces after it as make it `width` wide. -/
def fill (width : Nat) (t : Text) : Text := t ++ spaces (width - t.cells)

/-! ### Breaking a text anywhere -/

/-- Breaks a text into lines, the first of which has begun with `line`. -/
def chopAfter (width : Nat) (line : Text) : Text → List Text
  | [] => [line]
  | c :: t =>
    if width < line.cells + charCells c then line :: chopAfter width [c] t
    else chopAfter width (line ++ [c]) t

/-- Breaks a text into lines that are at most `width` wide, if no character is wider. -/
def chop (width : Nat) (t : Text) : List Text := chopAfter width [] t

end Text

end CommandLang
