/-
  CommandLang/Proofs/Report/Table.lean
  ====================================
  **Where a cell of a table is written.**

  All rows of a table are shown with equally many cells, and each cell in its place
  (`length_of_mem_rows`, `exists_cells_of_mem`).  If the lines of a cell fit in its column, then
  there is room for the whole table (`gridWidth_le`), and the lines stand in it, also where the
  table is in a panel (`table_boxed_stands`).
-/
import CommandLang.Proofs.Report.Display
import CommandLang.Proofs.Report.Grid

namespace CommandLang.Console

open Box (Stands inColumn)
open Passage (Fits)

variable {emoji : Markup.Emoji} {screen : Screen} {available room j n w width : Nat}
  {t u out : Text} {row lines pieces : List Text} {style : Option Text} {table : Table} {g : Grid}

/-! ### Rows of equal length -/

theorem length_lengthened {α : Type} {filler : α} {xs : List α} (h : xs.length ≤ n) :
    (lengthened filler n xs).length = n := by
  rw [lengthened, List.length_append, List.length_replicate, Nat.add_sub_cancel' h]

theorem getElem?_lengthened {α : Type} {filler x : α} {xs : List α} (h : xs[j]? = some x) :
    (lengthened filler n xs)[j]? = some x := by
  rw [lengthened, List.getElem?_append_left (List.getElem?_eq_some_iff.1 h).1, h]

theorem length_columns_le (table : Table) : table.columns.length ≤ columnCount table :=
  Columns.le_greatest List.mem_cons_self

theorem length_le_columnCount (h : row ∈ table.rows) : row.length ≤ columnCount table :=
  Columns.le_greatest (List.mem_cons_of_mem _ (List.mem_map_of_mem h))

theorem length_shownHeader_le {columns : List Text} {header : List Passage}
    (h : shownHeader emoji room columns = .ok header) : header.length ≤ columns.length := by
  rw [shownHeader] at h
  split at h
  · cases h
    exact Nat.zero_le _
  · exact (length_of_mapM h).le

theorem length_header (h : grid emoji room table = .ok g) :
    g.header.length = columnCount table := by
  obtain ⟨header, rows, hheader, -, rfl⟩ := grid_eq_ok_iff.1 h
  exact length_lengthened ((length_shownHeader_le hheader).trans (length_columns_le table))

theorem length_of_mem_rows (h : grid emoji room table = .ok g) :
    ∀ cells ∈ g.rows, cells.length = columnCount table := by
  obtain ⟨header, rows, -, hrows, rfl⟩ := grid_eq_ok_iff.1 h
  intro cells hcells
  obtain ⟨shown, hshown, rfl⟩ := List.mem_map.1 hcells
  have hlengths : rows.map List.length = table.rows.map List.length :=
    map_eq_of_mapM hrows fun _ _ => length_of_mapM
  have hlength : shown.length ∈ table.rows.map List.length := by
    rw [← hlengths]
    exact List.mem_map_of_mem hshown
  exact length_lengthened (Columns.le_greatest (List.mem_cons_of_mem _ hlength))

/-- Each row is shown with its cells in their places. -/
theorem exists_cells_of_mem (h : grid emoji room table = .ok g) (hrow : row ∈ table.rows)
    (ht : row[j]? = some t) : ∃ cells ∈ g.rows, ∃ p, cell emoji t = .ok p ∧ cells[j]? = some p := by
  obtain ⟨header, rows, -, hrows, rfl⟩ := grid_eq_ok_iff.1 h
  obtain ⟨shown, hmem, hshown⟩ := exists_mem_of_mapM hrows hrow
  obtain ⟨p, hp, hj⟩ := getElem?_of_mapM hshown ht
  exact ⟨_, List.mem_map_of_mem hmem, p, hp, getElem?_lengthened hj⟩

theorem length_widths_grid (room : Nat) (g : Grid) : (g.widths room).length = g.header.length := by
  rw [Grid.widths, Columns.length_widths, List.length_map, List.length_range]

/-! ### Columns -/

/-- The table is shown with a column of this width where so much room is available. -/
def HasColumn (emoji : Markup.Emoji) (available : Nat) (table : Table) (j w : Nat) : Prop :=
  ∃ g, grid emoji (columnRoom available table) table = .ok g ∧
    (g.widths (columnRoom available table))[j]? = some w

/-- A table one of whose columns is not empty is no wider than there is room. -/
theorem gridWidth_le (h : grid emoji (columnRoom available table) table = .ok g)
    (hwidth : (g.widths (columnRoom available table))[j]? = some w) (hw : 0 < w) :
    Box.gridWidth (g.widths (columnRoom available table)) ≤ available := by
  have htotal : Columns.total (g.widths (columnRoom available table)) ≤
      columnRoom available table := Columns.total_widths_le _ _
  have hcolumn : w ≤ Columns.total (g.widths (columnRoom available table)) := by
    rw [Columns.total_eq_sum]
    exact List.le_sum_of_mem (List.mem_of_getElem? hwidth)
  have hlength : (g.widths (columnRoom available table)).length = columnCount table := by
    rw [length_widths_grid, length_header h]
  rw [Box.gridWidth, hlength]
  rw [columnRoom] at htotal hcolumn ⊢
  omega

/-- A cell whose lines fit in its column stands in its table. -/
theorem tableLines_stands (h : tableLines emoji available ⟨table, style⟩ = .ok lines)
    (hcolumn : HasColumn emoji available table j w) (hrow : row ∈ table.rows)
    (ht : row[j]? = some t) (hcell : cell emoji t = .ok ⟨u, []⟩)
    (hfits : ∀ line ∈ u.splitOn '\n', Fits (w - Columns.padding) line) :
    ∃ width, 0 < width ∧ width ≤ available ∧
      Stands width ((u.splitOn '\n').map (inColumn w)) lines := by
  obtain ⟨g, hg, hwidth⟩ := hcolumn
  have hcount : columnCount table ≠ 0 := by
    have hlt := (List.getElem?_eq_some_iff.1 ht).1
    have hle := length_le_columnCount hrow
    omega
  rw [tableLines, if_neg hcount] at h
  obtain ⟨g', hg', h⟩ := bind_eq_ok_iff.1 h
  obtain rfl : g = g' := Except.ok.inj (hg.symm.trans (ofMarkup_eq_ok_iff.1 hg'))
  obtain ⟨title, -, h⟩ := bind_eq_ok_iff.1 h
  obtain ⟨above, -, h⟩ := bind_eq_ok_iff.1 h
  obtain ⟨-, -, h⟩ := bind_eq_ok_iff.1 h
  obtain ⟨drawn, hdrawn, h⟩ := bind_eq_ok_iff.1 h
  cases h
  obtain ⟨cells, hmem, p, hp, hj⟩ := exists_cells_of_mem hg hrow ht
  obtain rfl : p = ⟨u, []⟩ := Except.ok.inj (hp.symm.trans hcell)
  have hlength : cells.length = (g.widths (columnRoom available table)).length := by
    rw [length_of_mem_rows hg cells hmem, length_widths_grid, length_header hg]
  have hroom := Passage.room_of_fits hfits
  refine ⟨_, ?_, gridWidth_le hg hwidth (by omega), ?_⟩
  · exact Nat.lt_of_lt_of_le (Nat.succ_pos _) (Nat.le_add_left _ _)
  · have hstands := Box.grid_stands (ofDrawing_eq_ok_iff.1 hdrawn) hmem hlength hwidth hj hfits
    exact hstands.append_left above

/-! ### Tables on a console -/

/-- The room that is available for a table, in a panel or by itself. -/
def tableRoom (screen : Screen) (wrap : Bool) : Nat :=
  if wrap then Box.panelWidth screen.width else screen.width

theorem performAll_build_cons (console : Console) (calls : List (Call (Message StyledTable))) :
    console.performAll (.build table style :: calls) = console.performAll calls := by
  have hbuild : console.perform (.build table style) = .ok [] := by
    cases console with
    | plain => rfl
    | boxed screen => rfl
  rw [performAll, performAll, List.mapM_cons, hbuild]
  cases calls.mapM console.perform with
  | error e => rfl
  | ok outs => rfl

theorem stands_map_onScreen (h : Stands n pieces lines) (hle : n ≤ width) :
    Stands n pieces (lines.map (onScreen width)) := by
  have hsame : ∀ line : Text, line.cells = n → onScreen width line = [] ++ line ++ [] := by
    intro line hline
    rw [List.nil_append, List.append_nil, onScreen, if_pos (hline.le.trans hle)]
  have hmap := h.map hsame
  rwa [Text.cells_nil, Nat.zero_add, Nat.add_zero] at hmap

theorem tableLines_of_messageLines (hroom : available ≠ 0)
    (h : messageLines emoji available (.object ⟨table, style⟩) = .ok lines) :
    tableLines emoji available ⟨table, style⟩ = .ok lines := by
  rwa [messageLines, if_neg hroom] at h

/-- **A cell whose lines fit in its column stands in its table**, and the table in its panel. -/
theorem table_boxed_stands {wrap : Bool} (h : (boxed screen).table table style wrap = .ok out)
    (hcolumn : HasColumn screen.emoji (tableRoom screen wrap) table j w) (hrow : row ∈ table.rows)
    (ht : row[j]? = some t) (hcell : cell screen.emoji t = .ok ⟨u, []⟩)
    (hfits : ∀ line ∈ u.splitOn '\n', Fits (w - Columns.padding) line) :
    ∃ lines, out = written lines ∧ ∃ width ≤ screen.width,
      Stands width ((u.splitOn '\n').map (inColumn w)) lines := by
  have hroom : tableRoom screen wrap ≠ 0 := by
    obtain ⟨g, hg, hwidth⟩ := hcolumn
    have hwide := Passage.room_of_fits hfits
    have hle := gridWidth_le hg hwidth (by omega)
    rw [Box.gridWidth, Box.edgesWidth] at hle
    omega
  cases wrap with
  | false =>
    have hcall : (boxed screen).perform (.report (.object ⟨table, style⟩)) = .ok out := by
      rw [← performAll_singleton, ← performAll_build_cons]
      exact h
    obtain ⟨lines, hlines, hout⟩ := bind_eq_ok_iff.1 hcall
    cases hout
    obtain ⟨width, -, hle, hstands⟩ :=
      tableLines_stands (tableLines_of_messageLines hroom hlines) hcolumn hrow ht hcell hfits
    exact ⟨_, rfl, width, hle, stands_map_onScreen hstands hle⟩
  | true =>
    have hcall : (boxed screen).perform (.panel (.object ⟨table, style⟩) table.title style) =
        .ok out := by
      rw [← performAll_singleton, ← performAll_build_cons]
      exact h
    obtain ⟨lines, hlines, hout⟩ := bind_eq_ok_iff.1 hcall
    cases hout
    have hwidth : screen.width ≠ 0 := by
      intro hzero
      rw [tableRoom, hzero] at hroom
      exact hroom rfl
    obtain ⟨top, inside, hinside, rfl⟩ := exists_frame_of_panelLines hwidth hlines
    obtain ⟨width, hpos, hle, hstands⟩ :=
      tableLines_stands (tableLines_of_messageLines hroom hinside) hcolumn hrow ht hcell hfits
    have hframe : Stands screen.width ((u.splitOn '\n').map (inColumn w))
        (Box.frame screen.width top inside) :=
      ((hstands.framed hpos hle).append_left [_]).append_right _
    exact ⟨_, rfl, screen.width, le_rfl, stands_map_onScreen hframe le_rfl⟩

end CommandLang.Console
