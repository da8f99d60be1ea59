/-
  CommandLang/Report/Box.lean
  ===========================
  **Boxes drawn around text.**

  A panel is as wide as there is room and holds lines of text; a grid is as wide as its cells need,
  if there is room.  Both have rounded corners.  A panel has its title in the upper edge, a grid
  above it.  They are drawn as in rich 13.7.1.
-/
import CommandLang.Report.Columns
import CommandLang.Report.Passage

namespace CommandLang.Box

def rule (width : Nat) : Text := List.replicate width '─'

/-! ### Panels -/

/-- The width of the lines in a panel, given that of the panel. -/
def panelWidth (width : Nat) : Nat := width - 4

/-- A title on one line, with a space on either side. -/
def titleLine (title : Passage) : Passage :=
  let line := title.withText (title.text.map fun c => if c = '\n' then ' ' else c)
  (line.expandTabs.prepend " ").append ⟨[' '], []⟩

/-- The upper edge of a panel between its corners: the title in the middle, if there is room for
    one, and the odd piece of the edge on the right. -/
def panelTop (width : Nat) (title : Option Passage) : Except Numeral.Error Text :=
  match title with
  | none => .ok (rule (width - 2))
  | some title =>
    if width ≤ 4 then .ok (rule (width - 2))
    else do
      let layout : Passage.Layout := ⟨panelWidth width, .ragged, .fold⟩
      let shown := (titleLine title).truncate layout
      let free := panelWidth width - shown.text.cells
      let edge := (shown.prepend (rule (free / 2))).append ⟨rule (free - free / 2), []⟩
      let line := (edge.trimEnd (panelWidth width)).truncate layout
      Passage.checkStyles [line]
      return rule 1 ++ line.text ++ rule 1

/-- A line in a panel. -/
def framed (width : Nat) (line : Text) : Text := "│ " ++ line.fit (panelWidth width) ++ " │"

/-- Lines in a panel, below its upper edge. -/
def frame (width : Nat) (top : Text) (lines : List Text) : List Text :=
  ('╭' :: top ++ ['╮']) :: lines.map (framed width) ++ ['╰' :: rule (width - 2) ++ ['╯']]

def panel (width : Nat) (title : Option Passage) (lines : List Text) :
    Except Numeral.Error (List Text) := do
  return frame width (← panelTop width title) lines

/-! ### Grids -/

/-- A horizontal line of a grid, with its left end, its crossings and its right end. -/
def edge (left crossing right : Char) (widths : List Nat) : Text :=
  left :: Text.join [crossing] (widths.map rule) ++ [right]

/-- The width that the edges of a grid take beside its columns. -/
def edgesWidth (columns : Nat) : Nat := columns + 1

/-- The width of a grid whose columns have these widths. -/
def gridWidth (widths : List Nat) : Nat := Columns.total widths + edgesWidth widths.length

/-- The lines of a cell, each as wide as the column.  A column that is all padding shows nothing. -/
def cellLines (width : Nat) (cell : Passage) : Except Numeral.Error (List Text) := do
  let lines ← cell.draw ⟨width - Columns.padding, .left, .ellipsis⟩
  return lines.map fun line => [' '] ++ line ++ [' ']

/-- Where the lines of a cell stand that has fewer of them than its row. -/
inductive Standing where
  | top
  | bottom
deriving DecidableEq, Repr

/-- The lines of a cell with empty ones added, so that there are `height` of them. -/
def stand (s : Standing) (width height : Nat) (lines : List Text) : List Text :=
  let blank := List.replicate (height - lines.length) (Text.spaces width)
  match s with
  | .top => lines ++ blank
  | .bottom => blank ++ lines

/-- A line through all columns of a grid. -/
def across (texts : List Text) : Text := "│" ++ Text.join "│" texts ++ "│"

/-- The lines of a row: as many as its highest cell has, and at least one. -/
def row (s : Standing) (widths : List Nat) (cells : List Passage) :
    Except Numeral.Error (List Text) := do
  let drawn ← (widths.zip cells).mapM fun (width, cell) => cellLines width cell
  let height := max 1 (Columns.greatest (drawn.map List.length))
  let columns := List.zipWith (fun width lines => stand s width height lines) widths drawn
  return (List.range height).map fun i => across (columns.map fun lines => lines.getD i [])

/-- The title of a grid above it, in the middle. -/
def gridTitle (width : Nat) (title : Option Passage) : Except Numeral.Error (List Text) :=
  match title with
  | none => .ok []
  | some title => title.draw ⟨width, .centre, .fold⟩

/-- A grid whose columns have these widths, below its title: the header, which stands at the bottom
    of its row, and the rows. -/
def grid (widths : List Nat) (header : List Passage) (rows : List (List Passage)) :
    Except Numeral.Error (List Text) := do
  let header ← row .bottom widths header
  let rows ← rows.mapM (row .top widths)
  return edge '╭' '┬' '╮' widths :: header ++ edge '├' '┼' '┤' widths :: rows.flatten ++
    [edge '╰' '┴' '╯' widths]

end CommandLang.Box
