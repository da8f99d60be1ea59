/-
  CommandLang/Report/Columns.lean
  ===============================
  **How wide the columns of a grid are.**

  A column is as wide as the widest line in it, with a space on either side.  If the columns do not
  fit together, the widest are made narrower until they do (`shrink`).  All widths include the
  padding.  The widths are those that rich 13.7.1 finds for a table without settings of its own.
-/
import CommandLang.Text.Cells

namespace CommandLang.Columns

/-- The greatest of some numbers, and 0 if there are none. -/
def greatest (ns : List Nat) : Nat := ns.foldl max 0

def total (ns : List Nat) : Nat := ns.foldl (· + ·) 0

/-- A character at which the lines of a text end. -/
def isLineEnd (c : Char) : Bool :=
  let n := c.toNat
  (0x0A ≤ n && n ≤ 0x0D) || (0x1C ≤ n && n ≤ 0x1E) || n == 0x85 || n == 0x2028 || n == 0x2029

/-- The width of the widest line of a text. -/
def widestLine (t : Text) : Nat :=
  greatest ((Text.splitOn '\n' (t.map fun c => if isLineEnd c then '\n' else c)).map Text.cells)

/-- The space beside the text of a cell. -/
def padding : Nat := 2

/-- The width that a cell takes where so much is available; it takes all if that is no more than
    padding. -/
def cellWidth (available : Nat) (t : Text) : Nat :=
  if available ≤ padding then available else min available (widestLine t + padding)

/-- The width that a column takes where so much is available. -/
def columnWidth (available : Nat) (cells : List Text) : Nat :=
  greatest (cells.map (cellWidth available))

/-! ### Making columns narrower -/

/-- A quotient rounded to the nearest whole number, and to the even one of two. -/
def roundDiv (n d : Nat) : Nat :=
  let q := n / d
  let r := n % d
  if 2 * r < d then q
  else if 2 * r = d then q + q % 2
  else q + 1

/-- Takes an excess off the widths that are marked, of which there are so many, in equal parts and
    at most `most` off each. -/
def takeOff (most excess marked : Nat) : List (Nat × Bool) → List Nat
  | [] => []
  | (width, isMarked) :: rest =>
    if isMarked then
      let part := min most (roundDiv excess marked)
      (width - part) :: takeOff most (excess - part) (marked - 1) rest
    else width :: takeOff most excess marked rest

/-- Makes the widest columns as narrow as the next widest, or narrower than that if all are equally
    wide, again and again until the columns fit. -/
def shrink (available : Nat) (widths : List Nat) : Nat → List Nat
  | 0 => widths
  | steps + 1 =>
    let excess := total widths - available
    let widest := greatest widths
    let next := greatest (widths.filter (· ≠ widest))
    if excess = 0 || widest = 0 then widths
    else
      let marked := widths.map fun w => (w, w == widest)
      let most := min excess (widest - next)
      shrink available (takeOff most excess (marked.countP (·.2)) marked) steps

/-- The widths of columns, given by the texts of their cells, in so much space. -/
def widths (available : Nat) (columns : List (List Text)) : List Nat :=
  let natural := columns.map fun cells => max 1 (columnWidth available cells)
  if total natural ≤ available then natural
  else List.zipWith columnWidth (shrink available natural (total natural)) columns

end CommandLang.Columns
