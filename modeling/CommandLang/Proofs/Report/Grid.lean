/-
  CommandLang/Proofs/Report/Grid.lean
  ===================================
  **Where a cell stands in a grid.**

  Each line of a cell is as wide as its column, also where it has been cut off, and so each line of
  a row is as wide as the grid (`map_cells_texts`).  A text whose lines fit its column is drawn as
  these lines, between edges, one below the other and all equally far from the left (`Stands`,
  `row_stands`).  That stays so when the row is put into its grid (`grid_stands`) and the grid into
  a panel (`Stands.framed`).
-/
import CommandLang.Proofs.Report.Columns
import CommandLang.Proofs.Report.Layout
import CommandLang.Report.Box
import Mathlib.Data.List.GetD

namespace CommandLang

namespace Box

open Passage (Fits)

variable {w k j height width : Nat} {widths : List Nat} {cells : List Passage} {u : Text}
  {cell : Passage} {lines pieces more texts : List Text} {drawn : List (List Text)}

/-! ### Lines of a cell -/

theorem cellLines_of_fits (h : ∀ line ∈ u.splitOn '\n', Fits (w - Columns.padding) line) :
    cellLines w ⟨u, []⟩ =
      .ok ((u.splitOn '\n').map fun line => [' '] ++ line.fit (w - Columns.padding) ++ [' ']) := by
  rw [cellLines, Passage.draw_left_of_fits h]
  exact congrArg Except.ok List.map_map

/-- The lines of a cell are as wide as its column. -/
theorem cells_of_mem_cellLines (h : cellLines w cell = .ok lines) :
    ∀ line ∈ lines, line.cells = w := by
  intro line hline
  obtain ⟨drawn, hdrawn, h⟩ := bind_eq_ok_iff.1 h
  cases h
  obtain ⟨inside, hinside, rfl⟩ := List.mem_map.1 hline
  have hcells := Passage.cells_of_mem_draw_left hdrawn inside hinside
  have hroom : w - Columns.padding ≠ 0 := by
    intro hzero
    rw [hzero] at hdrawn
    cases hdrawn
    cases hinside
  have hspace : Text.cells [' '] = 1 := by decide
  rw [Text.cells_append, Text.cells_append, hspace, hcells]
  simp only [Columns.padding] at hroom ⊢
  omega

theorem cells_of_mem_stand (h : ∀ line ∈ lines, line.cells = w) (s : Standing) (height : Nat) :
    ∀ line ∈ stand s w height lines, line.cells = w := by
  intro line hline
  have hor : line ∈ lines ∨ line ∈ List.replicate (height - lines.length) (Text.spaces w) := by
    cases s with
    | top => exact List.mem_append.1 hline
    | bottom => exact (List.mem_append.1 hline).symm
  rcases hor with hmem | hmem
  · exact h line hmem
  · rw [List.eq_of_mem_replicate hmem, Text.cells_spaces]

theorem length_stand (h : lines.length ≤ height) (s : Standing) (w : Nat) :
    (stand s w height lines).length = height := by
  cases s with
  | top =>
    simp only [stand, List.length_append, List.length_replicate]
    omega
  | bottom =>
    simp only [stand, List.length_append, List.length_replicate]
    omega

/-! ### Lines of a row -/

/-- The texts of the columns in one line of a row. -/
def textsAt (s : Standing) (height : Nat) (widths : List Nat) (drawn : List (List Text)) (k : Nat) :
    List Text :=
  (List.zipWith (fun width lines => stand s width height lines) widths drawn).map
    fun lines => lines.getD k []

theorem row_eq_ok_iff {s : Standing} :
    row s widths cells = .ok lines ↔
      ∃ drawn, ((widths.zip cells).mapM fun (width, cell) => cellLines width cell) = .ok drawn ∧
        lines = (List.range (max 1 (Columns.greatest (drawn.map List.length)))).map fun k =>
          across (textsAt s (max 1 (Columns.greatest (drawn.map List.length))) widths drawn k) := by
  rw [row, bind_eq_ok_iff]
  constructor
  · rintro ⟨drawn, hdrawn, h⟩
    cases h
    exact ⟨drawn, hdrawn, rfl⟩
  · rintro ⟨drawn, hdrawn, rfl⟩
    exact ⟨drawn, hdrawn, rfl⟩

/-- In each line of a row, the texts are as wide as their columns. -/
theorem map_cells_texts {s : Standing} (hlength : cells.length = widths.length)
    (h : ((widths.zip cells).mapM fun (width, cell) => cellLines width cell) = .ok drawn)
    (hheight : ∀ lines ∈ drawn, lines.length ≤ height) (hk : k < height) :
    (textsAt s height widths drawn k).map Text.cells = widths := by
  induction widths generalizing cells drawn with
  | nil =>
    cases h
    rfl
  | cons w widths ih =>
    cases cells with
    | nil => cases hlength
    | cons cell cells =>
      rw [List.zip_cons_cons] at h
      obtain ⟨lines, rest, hlines, hrest, rfl⟩ := mapM_cons_eq_ok_iff.1 h
      rw [List.forall_mem_cons] at hheight
      have hmem : (stand s w height lines).getD k [] ∈ stand s w height lines := by
        have hlt : k < (stand s w height lines).length := by rwa [length_stand hheight.1]
        rw [List.getD_eq_getElem _ _ hlt]
        exact List.getElem_mem hlt
      have hcells := cells_of_mem_stand (cells_of_mem_cellLines hlines) s height _ hmem
      have htail := ih (Nat.succ.inj hlength) hrest hheight.2
      rw [textsAt, List.zipWith_cons_cons, List.map_cons, List.map_cons, hcells]
      exact congrArg (w :: ·) htail

/-- Before each text of a line there is an edge, and one is at the end. -/
theorem across_eq (h : texts ≠ []) : across texts = texts.flatMap ('│' :: ·) ++ ['│'] := by
  induction texts with
  | nil => exact absurd rfl h
  | cons t texts ih =>
    cases texts with
    | nil => simp [across, Text.join_singleton]
    | cons next texts =>
      have hnext := ih (List.cons_ne_nil next texts)
      rw [across] at hnext
      rw [across, Text.join_cons_cons, List.flatMap_cons, List.append_assoc _ _ ['│'], ← hnext]
      simp

theorem cells_flatMap_edge (texts : List Text) :
    Text.cells (texts.flatMap ('│' :: ·)) = (texts.map Text.cells).sum + texts.length := by
  have hedge : charCells '│' = 1 := by decide +kernel
  induction texts with
  | nil => rfl
  | cons t texts ih =>
    rw [List.flatMap_cons, Text.cells_append, Text.cells_cons, ih, hedge, List.map_cons,
      List.sum_cons, List.length_cons]
    omega

theorem cells_across (h : texts ≠ []) :
    (across texts).cells = gridWidth (texts.map Text.cells) := by
  have hedge : Text.cells ['│'] = 1 := by decide +kernel
  rw [across_eq h, Text.cells_append, cells_flatMap_edge, hedge, gridWidth, edgesWidth,
    Columns.total_eq_sum, List.length_map, Nat.add_assoc]

theorem eq_take_append_cons_drop {α : Type} {xs : List α} {x : α} (h : xs[j]? = some x) :
    xs = xs.take j ++ x :: xs.drop (j + 1) := by
  obtain ⟨hj, rfl⟩ := List.getElem?_eq_some_iff.1 h
  rw [← List.drop_eq_getElem_cons hj, List.take_append_drop]

/-- A text stands in its line between two edges, behind the texts before it. -/
theorem exists_across_eq (h : texts[j]? = some u) :
    ∃ right,
      across texts = (texts.take j).flatMap ('│' :: ·) ++ (['│'] ++ u ++ ['│']) ++ right := by
  have hne : texts ≠ [] := by
    rintro rfl
    cases h
  have hparts := congrArg (List.flatMap ('│' :: ·)) (eq_take_append_cons_drop h)
  rw [List.flatMap_append, List.flatMap_cons] at hparts
  obtain ⟨right, hright⟩ : ∃ right,
      (texts.drop (j + 1)).flatMap ('│' :: ·) ++ ['│'] = '│' :: right := by
    cases texts.drop (j + 1) with
    | nil => exact ⟨[], rfl⟩
    | cons t texts => exact ⟨_, rfl⟩
  refine ⟨right, ?_⟩
  rw [across_eq hne, hparts, List.append_assoc, List.append_assoc, hright]
  simp

/-- Where a cell has a line, that line is in its row, before any that fill the cell up. -/
theorem getElem?_textsAt (hwidth : widths[j]? = some w) (hdrawn : drawn[j]? = some lines)
    (hline : lines[k]? = some u) : (textsAt .top height widths drawn k)[j]? = some u := by
  have hlt := (List.getElem?_eq_some_iff.1 hline).1
  have hstand : (stand .top w height lines).getD k [] = u := by
    rw [stand, List.getD_eq_getElem?_getD, List.getElem?_append_left hlt, hline, Option.getD_some]
  rw [textsAt, List.getElem?_map, List.getElem?_zipWith, hwidth, hdrawn, ← hstand]
  rfl

/-! ### Where a cell stands -/

/-- A line of a cell with the edges on either side of its column. -/
def inColumn (w : Nat) (line : Text) : Text := "│ " ++ line.fit (w - Columns.padding) ++ " │"

/-- The pieces stand among the lines, one below the other and all equally far from the left, and the
    lines are so wide there. -/
def Stands (width : Nat) (pieces lines : List Text) : Prop :=
  ∃ start place : Nat, ∀ k piece, pieces[k]? = some piece →
    ∃ left right : Text, lines[start + k]? = some (left ++ piece ++ right) ∧ left.cells = place ∧
      (left ++ piece ++ right).cells = width

/-- A line of a row shows the line of a cell in its column, behind the columns before it. -/
theorem exists_across_inColumn {line : Text} (hcells : texts.map Text.cells = widths)
    (h : texts[j]? = some ([' '] ++ line.fit (w - Columns.padding) ++ [' '])) :
    ∃ left right, across texts = left ++ inColumn w line ++ right ∧
      left.cells = (widths.take j).sum + (widths.take j).length ∧
        (left ++ inColumn w line ++ right).cells = gridWidth widths := by
  obtain ⟨right, hacross⟩ := exists_across_eq h
  have hedges : ['│'] ++ ([' '] ++ line.fit (w - Columns.padding) ++ [' ']) ++ ['│'] =
      inColumn w line := by simp [inColumn]
  rw [hedges] at hacross
  have hne : texts ≠ [] := by
    rintro rfl
    cases h
  refine ⟨(texts.take j).flatMap ('│' :: ·), right, hacross, ?_, ?_⟩
  · rw [cells_flatMap_edge, List.map_take, ← hcells, ← List.map_take, List.length_map]
  · rw [← hacross, cells_across hne, hcells]

/-- A text that fits its column stands in each row that it is a cell of. -/
theorem row_stands (h : row .top widths cells = .ok lines) (hlength : cells.length = widths.length)
    (hwidth : widths[j]? = some w) (hcell : cells[j]? = some ⟨u, []⟩)
    (hfits : ∀ line ∈ u.splitOn '\n', Fits (w - Columns.padding) line) :
    Stands (gridWidth widths) ((u.splitOn '\n').map (inColumn w)) lines := by
  obtain ⟨drawn, hdrawn, rfl⟩ := row_eq_ok_iff.1 h
  obtain ⟨own, hown, hj⟩ :=
    getElem?_of_mapM hdrawn (List.getElem?_zip_eq_some (z := (w, ⟨u, []⟩)).2 ⟨hwidth, hcell⟩)
  have hlines := Except.ok.inj (hown.symm.trans (cellLines_of_fits hfits))
  have hheight : ∀ lines ∈ drawn,
      lines.length ≤ max 1 (Columns.greatest (drawn.map List.length)) := by
    intro lines hmem
    exact (Columns.le_greatest (List.mem_map_of_mem hmem)).trans (Nat.le_max_right _ _)
  generalize max 1 (Columns.greatest (drawn.map List.length)) = height at hheight ⊢
  refine ⟨0, (widths.take j).sum + (widths.take j).length, ?_⟩
  intro k piece hpiece
  rw [List.getElem?_map, Option.map_eq_some_iff] at hpiece
  obtain ⟨line, hline, rfl⟩ := hpiece
  have hget : own[k]? = some ([' '] ++ line.fit (w - Columns.padding) ++ [' ']) := by
    rw [hlines, List.getElem?_map, hline]
    rfl
  have hk : k < height :=
    (List.getElem?_eq_some_iff.1 hget).1.trans_le (hheight own (List.mem_of_getElem? hj))
  obtain ⟨left, right, hacross, hleft, hwide⟩ := exists_across_inColumn
    (map_cells_texts (s := .top) hlength hdrawn hheight hk) (getElem?_textsAt hwidth hj hget)
  refine ⟨left, right, ?_, hleft, hwide⟩
  rw [Nat.zero_add, List.getElem?_map, List.getElem?_range hk, Option.map_some, hacross]

/-! ### Among other lines -/

namespace Stands

theorem append_left (h : Stands width pieces lines) (more : List Text) :
    Stands width pieces (more ++ lines) := by
  obtain ⟨start, place, h⟩ := h
  refine ⟨more.length + start, place, ?_⟩
  intro k piece hpiece
  obtain ⟨left, right, hline, hwide⟩ := h k piece hpiece
  refine ⟨left, right, ?_, hwide⟩
  rw [Nat.add_assoc, List.getElem?_append_right (Nat.le_add_right _ _), Nat.add_sub_cancel_left,
    hline]

theorem append_right (h : Stands width pieces lines) (more : List Text) :
    Stands width pieces (lines ++ more) := by
  obtain ⟨start, place, h⟩ := h
  refine ⟨start, place, ?_⟩
  intro k piece hpiece
  obtain ⟨left, right, hline, hwide⟩ := h k piece hpiece
  refine ⟨left, right, ?_, hwide⟩
  rw [List.getElem?_append_left (List.getElem?_eq_some_iff.1 hline).1, hline]

/-- Pieces still stand where the same is put before each line, and the same behind it. -/
theorem map {f : Text → Text} {before behind : Text} (h : Stands width pieces lines)
    (hf : ∀ line, line.cells = width → f line = before ++ line ++ behind) :
    Stands (before.cells + width + behind.cells) pieces (lines.map f) := by
  obtain ⟨start, place, h⟩ := h
  refine ⟨start, before.cells + place, ?_⟩
  intro k piece hpiece
  obtain ⟨left, right, hline, hleft, hwide⟩ := h k piece hpiece
  refine ⟨before ++ left, right ++ behind, ?_, ?_, ?_⟩
  · rw [List.getElem?_map, hline, Option.map_some, hf _ hwide]
    simp
  · rw [Text.cells_append, hleft]
  · simp only [Text.cells_append] at hwide ⊢
    omega

/-- What stands in lines that a panel has room for stands in the panel. -/
theorem framed {outer : Nat} (h : Stands width pieces lines) (hpos : 0 < width)
    (hle : width ≤ panelWidth outer) : Stands outer pieces (lines.map (framed outer)) := by
  have hframed : ∀ line : Text, line.cells = width →
      Box.framed outer line = "│ " ++ line ++ (Text.spaces (panelWidth outer - width) ++ " │") := by
    intro line hline
    rw [Box.framed, Text.fit, if_pos (hline.le.trans hle), hline]
    simp only [List.append_assoc]
  have hedges : Text.cells "│ " = 2 ∧ Text.cells " │" = 2 := by decide +kernel
  have houter : Text.cells "│ " + width +
      Text.cells (Text.spaces (panelWidth outer - width) ++ " │") = outer := by
    rw [Text.cells_append, Text.cells_spaces, hedges.1, hedges.2]
    simp only [panelWidth] at hle ⊢
    omega
  have hmap := h.map hframed
  rwa [houter] at hmap

end Stands

/-- A text that fits its column stands in each grid that it is a cell of. -/
theorem grid_stands {header : List Passage} {rows : List (List Passage)}
    (h : grid widths header rows = .ok lines) (hrow : cells ∈ rows)
    (hlength : cells.length = widths.length) (hwidth : widths[j]? = some w)
    (hcell : cells[j]? = some ⟨u, []⟩)
    (hfits : ∀ line ∈ u.splitOn '\n', Fits (w - Columns.padding) line) :
    Stands (gridWidth widths) ((u.splitOn '\n').map (inColumn w)) lines := by
  obtain ⟨top, -, h⟩ := bind_eq_ok_iff.1 h
  obtain ⟨drawn, hdrawn, h⟩ := bind_eq_ok_iff.1 h
  cases h
  obtain ⟨own, hmem, hown⟩ := exists_mem_of_mapM hdrawn hrow
  obtain ⟨before, behind, rfl⟩ := List.append_of_mem hmem
  have hrows : Stands (gridWidth widths) ((u.splitOn '\n').map (inColumn w))
      (before ++ own :: behind).flatten := by
    rw [List.flatten_append, List.flatten_cons]
    exact ((row_stands hown hlength hwidth hcell hfits).append_right _).append_left _
  exact ((hrows.append_left [_]).append_left (_ :: top)).append_right _

end Box

end CommandLang
