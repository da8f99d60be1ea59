/-
  CommandLang/Proofs/Report/Display.lean
  ======================================
  **What a boxed console can show.**

  Cells are escaped and so are the messages that are not taken for markup, and what is escaped is
  without styles.  So a boxed console can show every table whose title and header have no bracket
  (`exists_table`), and every text in which no closing tag begins.  Of other texts it can show those
  that render as they stand and whose styles can be drawn (`showsText_iff`); nothing else makes a
  report or a panel fail (`exists_report_boxed_iff`, `exists_block_boxed_iff`).  All this is so on
  every screen.
-/
import CommandLang.Proofs.Except
import CommandLang.Proofs.Report.Escape
import CommandLang.Proofs.Report.Passage
import CommandLang.Proofs.Text
import CommandLang.Report.Display
import Mathlib.Data.List.Infix

namespace CommandLang

open Passage (unstyled_text)

/-! ### Texts that are taken for markup -/

namespace Markup

variable {t u : Text}

end Markup

/-! ### Boxes -/

namespace Box

theorem exists_panelTop {title : Option Passage} (h : ∀ p ∈ title, p.Unstyled) (width : Nat) :
    ∃ top, panelTop width title = .ok top := by
  cases title with
  | none => exact ⟨_, rfl⟩
  | some p =>
    have hp : p.Unstyled := h p rfl
    have hline : (titleLine p).Unstyled :=
      ((hp.withText _).expandTabs.prepend _).append (unstyled_text _)
    simp only [panelTop]
    split
    · exact ⟨_, rfl⟩
    · rw [Passage.checkStyles_of_unstyled]
      · exact ⟨_, rfl⟩
      · intro q hq
        rw [List.mem_singleton.1 hq]
        exact ((((hline.truncate _).prepend _).append (unstyled_text _)).trimEnd _).truncate _

theorem panel_eq_map (width : Nat) (title : Option Passage) (lines : List Text) :
    panel width title lines = (panelTop width title).map fun top => frame width top lines := by
  rw [panel]
  cases panelTop width title with
  | error e => rfl
  | ok top => rfl

theorem exists_panel {title : Option Passage} (h : ∀ p ∈ title, p.Unstyled) (width : Nat)
    (lines : List Text) : ∃ drawn, panel width title lines = .ok drawn := by
  obtain ⟨top, htop⟩ := exists_panelTop h width
  rw [panel_eq_map, htop]
  exact ⟨_, rfl⟩

theorem exists_cellLines {cell : Passage} (h : cell.Unstyled) (width : Nat) :
    ∃ lines, cellLines width cell = .ok lines := by
  obtain ⟨lines, hlines⟩ := h.exists_draw ⟨width - Columns.padding, .left, .ellipsis⟩
  rw [cellLines, hlines]
  exact ⟨_, rfl⟩

theorem exists_row {cells : List Passage} (h : ∀ p ∈ cells, p.Unstyled) (s : Standing)
    (widths : List Nat) : ∃ lines, row s widths cells = .ok lines := by
  rw [row]
  refine exists_bind_ok (Exists.choose_spec (exists_mapM_ok_iff.2 ?_)) ⟨_, rfl⟩
  rintro ⟨width, cell⟩ hmem
  exact exists_cellLines (h cell (List.of_mem_zip hmem).2) width

theorem exists_gridTitle {title : Option Passage} (h : ∀ p ∈ title, p.Unstyled) (width : Nat) :
    ∃ lines, gridTitle width title = .ok lines := by
  cases title with
  | none => exact ⟨[], rfl⟩
  | some p => exact (h p rfl).exists_draw ⟨width, .centre, .fold⟩

theorem exists_grid {header : List Passage} {rows : List (List Passage)}
    (hheader : ∀ p ∈ header, p.Unstyled) (hrows : ∀ cells ∈ rows, ∀ p ∈ cells, p.Unstyled)
    (widths : List Nat) : ∃ lines, grid widths header rows = .ok lines := by
  obtain ⟨top, htop⟩ := exists_row hheader .bottom widths
  have hdrawn : ∃ drawn, rows.mapM (row .top widths) = .ok drawn :=
    exists_mapM_ok_iff.2 fun cells hcells => exists_row (hrows cells hcells) .top widths
  obtain ⟨drawn, hdrawn⟩ := hdrawn
  rw [grid, htop]
  simp only [bind, Except.bind, hdrawn]
  exact ⟨_, rfl⟩

end Box

/-! ### Tables -/

/-- The title and the header of the table have no brackets. -/
structure Table.Unbracketed (table : Table) : Prop where
  title : ∀ t ∈ table.title, '[' ∉ t
  columns : ∀ t ∈ table.columns, '[' ∉ t

namespace Console

variable {emoji : Markup.Emoji} {screen : Screen} {t : Text} {title style : Option Text}

theorem ofMarkup_eq_ok_iff {α : Type} {x : Except Markup.Error α} {a : α} :
    ofMarkup x = .ok a ↔ x = .ok a := mapError_eq_ok_iff

theorem ofDrawing_eq_ok_iff {α : Type} {x : Except Numeral.Error α} {a : α} :
    ofDrawing x = .ok a ↔ x = .ok a := mapError_eq_ok_iff

theorem exists_rendered {f : Text → Except Markup.Error Passage} {ts : List Text}
    (h : ∀ t ∈ ts, ∃ u, f t = .ok ⟨u, []⟩) :
    ∃ ps, ts.mapM f = .ok ps ∧ ∀ p ∈ ps, p.Unstyled := by
  apply exists_mapM_ok
  intro t ht
  obtain ⟨u, hu⟩ := h t ht
  exact ⟨⟨u, []⟩, hu, unstyled_text u⟩

theorem exists_cells (emoji : Markup.Emoji) (row : List Text) :
    ∃ cells, row.mapM (cell emoji) = .ok cells ∧ ∀ p ∈ cells, p.Unstyled :=
  exists_rendered fun t _ => Markup.exists_render_escape emoji t

theorem exists_shownHeader {columns : List Text} (h : ∀ t ∈ columns, '[' ∉ t)
    (emoji : Markup.Emoji) (room : Nat) :
    ∃ header, shownHeader emoji room columns = .ok header ∧ ∀ p ∈ header, p.Unstyled := by
  rw [shownHeader]
  split
  · exact ⟨[], rfl, by simp⟩
  · exact exists_rendered fun t ht => Markup.exists_render_of_not_mem (h t ht)

theorem exists_shownTitle (h : ∀ t ∈ title, '[' ∉ t) (emoji : Markup.Emoji) :
    ∃ shown, shownTitle emoji title = .ok shown ∧ ∀ p ∈ shown, p.Unstyled := by
  rw [shownTitle, Table.shownTitle?]
  cases hshown : title.filter (· ≠ []) with
  | none => exact ⟨none, rfl, by simp⟩
  | some t =>
    have ht : t ∈ title := (Option.filter_eq_some_iff.1 hshown).1
    obtain ⟨u, hu⟩ : ∃ u, Markup.render emoji t = .ok ⟨u, []⟩ :=
      Markup.exists_render_of_not_mem (h t ht)
    refine ⟨some ⟨u, []⟩, ?_, ?_⟩
    · rw [Option.mapM_some, hu]
      rfl
    · rintro p ⟨⟩
      exact unstyled_text u

theorem unstyled_lengthened {ps : List Passage} (h : ∀ p ∈ ps, p.Unstyled) (n : Nat) :
    ∀ p ∈ lengthened ⟨[], []⟩ n ps, p.Unstyled := by
  intro p hp
  rcases List.mem_append.1 hp with hp | hp
  · exact h p hp
  · rw [List.eq_of_mem_replicate hp]
    exact unstyled_text []

theorem grid_eq_ok_iff {table : Table} {room : Nat} {g : Grid} :
    grid emoji room table = .ok g ↔
      ∃ header rows, shownHeader emoji room table.columns = .ok header ∧
        table.rows.mapM (fun row => row.mapM (cell emoji)) = .ok rows ∧
        g = ⟨lengthened ⟨[], []⟩ (columnCount table) header,
          rows.map (lengthened ⟨[], []⟩ (columnCount table))⟩ := by
  constructor
  · intro h
    obtain ⟨header, hheader, h⟩ := bind_eq_ok_iff.1 h
    obtain ⟨rows, hrows, h⟩ := bind_eq_ok_iff.1 h
    exact ⟨header, rows, hheader, hrows, (Except.ok.inj h).symm⟩
  · rintro ⟨header, rows, hheader, hrows, rfl⟩
    exact bind_eq_ok_iff.2 ⟨header, hheader, bind_eq_ok_iff.2 ⟨rows, hrows, rfl⟩⟩

/-- Nothing in the header and in the rows has a style. -/
structure Grid.Unstyled (g : Grid) : Prop where
  header : ∀ p ∈ g.header, p.Unstyled
  rows : ∀ cells ∈ g.rows, ∀ p ∈ cells, p.Unstyled

/-- Whatever its cells are, a table shows, and nothing in it has a style. -/
theorem exists_grid {table : Table} (h : ∀ t ∈ table.columns, '[' ∉ t) (emoji : Markup.Emoji)
    (room : Nat) : ∃ g, grid emoji room table = .ok g ∧ g.Unstyled := by
  obtain ⟨header, hheader, hunstyled⟩ := exists_shownHeader h emoji room
  obtain ⟨rows, hrows, hcells⟩ :=
    exists_mapM_ok fun row (_ : row ∈ table.rows) => exists_cells emoji row
  refine ⟨_, grid_eq_ok_iff.2 ⟨header, rows, hheader, hrows, rfl⟩, ?_⟩
  -- short rows are filled with cells that have no text
  exact ⟨unstyled_lengthened hunstyled _,
    List.forall_mem_map.2 fun cells hmem => unstyled_lengthened (hcells cells hmem) _⟩

/-- A table is drawn whatever its cells are. -/
theorem exists_tableLines {table : Table} (h : table.Unbracketed)
    (hstyle : checkStyle style = .ok ()) (emoji : Markup.Emoji) (available : Nat) :
    ∃ lines, tableLines emoji available ⟨table, style⟩ = .ok lines := by
  rw [tableLines]
  split
  · exact ⟨_, rfl⟩
  · obtain ⟨g, hg, hunstyled⟩ := exists_grid h.columns emoji (columnRoom available table)
    obtain ⟨title, htitle, hshown⟩ := exists_shownTitle h.title emoji
    refine exists_bind_ok (ofMarkup_eq_ok_iff.2 hg) ?_
    refine exists_bind_ok (ofMarkup_eq_ok_iff.2 htitle) ?_
    refine exists_bind_ok (ofDrawing_eq_ok_iff.2 (Box.exists_gridTitle hshown _).choose_spec) ?_
    refine exists_bind_ok hstyle ?_
    have hgrid := Box.exists_grid hunstyled.header hunstyled.rows
      (g.widths (columnRoom available table))
    exact exists_bind_ok (ofDrawing_eq_ok_iff.2 hgrid.choose_spec) ⟨_, rfl⟩

/-! ### Messages -/

/-- The text can be shown where so much room is available. -/
def ShowsText (emoji : Markup.Emoji) (room : Nat) (t : Text) : Prop :=
  ∃ lines, textLines emoji room t = .ok lines

/-- The message can be shown where so much room is available. -/
def Shows (emoji : Markup.Emoji) (room : Nat) (message : Message StyledTable) : Prop :=
  ∃ lines, messageLines emoji room message = .ok lines

/-- What is not taken for markup is escaped, and shows. -/
theorem showsText_of_not_isMarkup (h : Markup.isMarkup t = false) (emoji : Markup.Emoji)
    (room : Nat) : ShowsText emoji room t := by
  obtain ⟨u, hu⟩ := Markup.exists_render_escape emoji t
  have hshown : shownText emoji t = .ok ⟨u, []⟩ := by
    rw [shownText, h]
    exact hu
  obtain ⟨lines, hlines⟩ := (unstyled_text u).exists_draw ⟨room, .ragged, .fold⟩
  exact exists_bind_ok (ofMarkup_eq_ok_iff.2 hshown) ⟨lines, ofDrawing_eq_ok_iff.2 hlines⟩

/-- A message that has no room is not looked at. -/
theorem shows_text_iff {room : Nat} :
    Shows emoji room (.text t) ↔ room = 0 ∨ ShowsText emoji room t := by
  unfold Shows ShowsText messageLines
  by_cases hroom : room = 0 <;> simp [hroom]

theorem shows_table {table : Table} (h : table.Unbracketed) (hstyle : checkStyle style = .ok ())
    (emoji : Markup.Emoji) (room : Nat) : Shows emoji room (.object ⟨table, style⟩) := by
  rw [Shows, messageLines]
  split
  · exact ⟨_, rfl⟩
  · exact exists_tableLines h hstyle emoji room

/-- The lines of a panel are those of its message in a frame. -/
theorem exists_frame_of_panelLines {message : Message StyledTable} {lines : List Text}
    (hwidth : screen.width ≠ 0) (h : panelLines screen message title style = .ok lines) :
    ∃ top inside, messageLines screen.emoji (Box.panelWidth screen.width) message = .ok inside ∧
      lines = Box.frame screen.width top inside := by
  rw [panelLines, if_neg hwidth] at h
  obtain ⟨_, -, h⟩ := bind_eq_ok_iff.1 h
  obtain ⟨shown, -, h⟩ := bind_eq_ok_iff.1 h
  obtain ⟨inside, hinside, h⟩ := bind_eq_ok_iff.1 h
  rw [ofDrawing_eq_ok_iff, Box.panel_eq_map, map_eq_ok_iff] at h
  obtain ⟨top, -, rfl⟩ := h
  exact ⟨top, inside, hinside, rfl⟩

/-- The title of a panel does no harm to the message in it. -/
theorem exists_panelLines_iff (h : ∀ t ∈ title, '[' ∉ t) (hstyle : checkStyle style = .ok ())
    (message : Message StyledTable) :
    (∃ lines, panelLines screen message title style = .ok lines) ↔
      Shows screen.emoji (Box.panelWidth screen.width) message := by
  by_cases hwidth : screen.width = 0
  · -- there is no room in a panel without width
    have hroom : Box.panelWidth screen.width = 0 := by rw [hwidth]; rfl
    rw [panelLines, if_pos hwidth, hroom]
    exact iff_of_true ⟨_, rfl⟩ ⟨[], rfl⟩
  · constructor
    · rintro ⟨lines, hlines⟩
      obtain ⟨_, inside, hinside, -⟩ := exists_frame_of_panelLines hwidth hlines
      exact ⟨inside, hinside⟩
    · rintro ⟨inside, hinside⟩
      obtain ⟨shown, htitle, hshown⟩ := exists_shownTitle h screen.emoji
      obtain ⟨drawn, hdrawn⟩ := Box.exists_panel hshown screen.width inside
      rw [panelLines, if_neg hwidth]
      refine exists_bind_ok hstyle ?_
      refine exists_bind_ok (ofMarkup_eq_ok_iff.2 htitle) ?_
      exact exists_bind_ok hinside ⟨drawn, ofDrawing_eq_ok_iff.2 hdrawn⟩

/-! ### What a console writes -/

theorem written_append (lines more : List Text) :
    written (lines ++ more) = written lines ++ written more := List.flatMap_append

/-- A text of several lines is written as these lines. -/
theorem written_join (line : Text) (lines : List Text) :
    written [Text.join "\n" (line :: lines)] = written (line :: lines) := by
  induction lines generalizing line with
  | nil => rw [Text.join_singleton]
  | cons next lines ih =>
    rw [Text.join_cons_cons]
    have hnext := ih next
    simp only [written, List.flatMap_cons, List.flatMap_nil, List.append_nil] at hnext ⊢
    rw [List.append_assoc, hnext]

theorem exists_report_boxed_iff (t : Text) :
    (∃ out, (boxed screen).report t = .ok out) ↔ ShowsText screen.emoji screen.width t := by
  simp only [report, perform, reportLines]
  exact exists_bind_pure_ok_iff

theorem exists_panel_boxed_iff (h : ∀ t ∈ title, '[' ∉ t) (hstyle : checkStyle style = .ok ())
    (message : Message StyledTable) :
    (∃ out, perform (boxed screen) (.panel message title style) = .ok out) ↔
      Shows screen.emoji (Box.panelWidth screen.width) message := by
  rw [← exists_panelLines_iff h hstyle]
  simp only [perform]
  exact exists_bind_pure_ok_iff

theorem performAll_singleton (console : Console) (call : Call (Message StyledTable)) :
    console.performAll [call] = console.perform call := by
  rw [performAll, List.mapM_cons, List.mapM_nil]
  cases console.perform call with
  | error e => rfl
  | ok written => exact congrArg Except.ok List.flatten_singleton

theorem exists_performAll_iff (console : Console) (calls : List (Call (Message StyledTable))) :
    (∃ out, console.performAll calls = .ok out) ↔
      ∀ call ∈ calls, ∃ out, console.perform call = .ok out := by
  rw [← exists_mapM_ok_iff]
  exact exists_bind_pure_ok_iff

/-- A plain console can write anything. -/
theorem exists_perform_plain (call : Call (Message StyledTable)) :
    ∃ out, perform plain call = .ok out := by
  rcases call with _ | ⟨_ | _⟩ | ⟨_ | _, _, _⟩ <;> exact ⟨_, rfl⟩

/-- A table can be written on any console, if the style that is asked for is one. -/
theorem exists_table_styled (console : Console) {t : Table} (h : t.Unbracketed)
    (hstyle : checkStyle style = .ok ()) (wrap : Bool) :
    ∃ out, console.table t style wrap = .ok out := by
  apply (exists_performAll_iff console _).2
  intro call hcall
  cases console with
  | plain => exact exists_perform_plain call
  | boxed screen =>
    rcases List.mem_cons.1 hcall with rfl | hcall
    · exact ⟨[], rfl⟩
    · cases wrap with
      | false =>
        rw [List.mem_singleton.1 hcall]
        simp only [perform, reportLines]
        exact exists_bind_pure_ok_iff.2 (shows_table h hstyle _ _)
      | true =>
        rw [List.mem_singleton.1 hcall]
        exact (exists_panel_boxed_iff h.title hstyle _).2 (shows_table h hstyle _ _)

end Console

end CommandLang
