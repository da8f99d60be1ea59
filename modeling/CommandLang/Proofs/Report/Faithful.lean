/-
  CommandLang/Proofs/Report/Faithful.lean
  =======================================
  **What is given to a boxed console is shown as text.**

  Cells, and messages in which no closing tag begins, are escaped before they are rendered.  So
  nothing in them acts as a tag, and none of them can make a report or a panel fail: a panel breaks
  off by its title or its style alone (`panel_boxed_error_iff`).  What shows is the text itself if
  it is displayable, but for the names of emoji and for the characters that never show; and lines
  that have no tab and fit where they are put are written as they are, whatever the width of the
  screen: in a report (`report_boxed_of_fits`), in a panel (`panel_boxed_of_fits`) and in a column
  of a table (`table_boxed_stands`).

  Main statement: this holds of every text on every screen (`escaped_text_shows_as_text`).
-/
import CommandLang.Proofs.Report.Table

namespace CommandLang.Console

open Box (Stands inColumn)
open Markup (Displayable Inert displayed isMarkup isShown stretches)
open Passage (Fits)

variable {emoji : Markup.Emoji} {screen : Screen} {width : Nat} {t u out : Text} {lines : List Text}
  {title style : Option Text}

/-! ### Passages -/

theorem shownText_of_not_isMarkup (h : isMarkup t = false) : shownText emoji t = cell emoji t := by
  rw [shownText, h]
  rfl

/-! ### Reports -/

theorem written_splitOn (t : Text) : written (t.splitOn '\n') = written [t] := by
  have hjoin : Text.join "\n" (t.splitOn '\n') = t := Text.join_splitOn '\n' t
  obtain ⟨line, rest, hlines⟩ := List.exists_cons_of_ne_nil (Text.splitOn_ne_nil '\n' t)
  rw [hlines] at hjoin ⊢
  rw [← written_join, hjoin]

theorem map_onScreen (h : ∀ line ∈ lines, line.cells ≤ width) :
    lines.map (onScreen width) = lines := by
  have hsame : ∀ line ∈ lines, onScreen width line = id line :=
    fun line hline => if_pos (h line hline)
  rw [List.map_congr_left hsame, List.map_id]

theorem textLines_of_fits (hshown : shownText emoji t = .ok ⟨u, []⟩)
    (hfits : ∀ line ∈ u.splitOn '\n', Fits width line) :
    textLines emoji width t = .ok (u.splitOn '\n') := by
  rw [textLines, hshown]
  exact congrArg ofDrawing (Passage.draw_of_fits hfits)

theorem report_boxed_of_fits (hshown : shownText screen.emoji t = .ok ⟨u, []⟩)
    (hfits : ∀ line ∈ u.splitOn '\n', Fits screen.width line) :
    (boxed screen).report t = .ok (written [u]) := by
  have hlines := textLines_of_fits hshown hfits
  have hscreen := map_onScreen fun line hline => (hfits line hline).cells
  have hwritten : (boxed screen).report t =
      .ok (written ((u.splitOn '\n').map (onScreen screen.width))) := by
    rw [report, perform, reportLines, hlines]
    rfl
  rw [hwritten, hscreen, written_splitOn]

/-! ### Panels -/

theorem panel_boxed_eq_perform (t : Text) (title style : Option Text) :
    (boxed screen).panel t title style = (boxed screen).perform (.panel (.text t) title style) :=
  performAll_singleton (boxed screen) _

/-- The upper edge of a panel, if the style that is asked for is one and the title can be shown. -/
def panelHead (screen : Screen) (title style : Option Text) : Except Error Text := do
  checkStyle style
  let title ← ofMarkup (shownTitle screen.emoji title)
  ofDrawing (Box.panelTop screen.width title)

theorem panelLines_eq {message : Message StyledTable} (hwidth : screen.width ≠ 0)
    (h : messageLines screen.emoji (Box.panelWidth screen.width) message = .ok lines)
    (title style : Option Text) :
    panelLines screen message title style =
      (panelHead screen title style).map fun top => Box.frame screen.width top lines := by
  rw [panelLines, if_neg hwidth, panelHead, h]
  cases checkStyle style with
  | error e => rfl
  | ok _ =>
    cases ofMarkup (shownTitle screen.emoji title) with
    | error e => rfl
    | ok shown =>
      simp only [bind, Except.bind, Box.panel_eq_map]
      cases Box.panelTop screen.width shown with
      | error e => rfl
      | ok top => rfl

/-- A panel breaks off by its title and its style, and not by the message in it. -/
theorem panel_boxed_error_iff (h : isMarkup t = false) (title style : Option Text) (e : Error) :
    (boxed screen).panel t title style = .error e ↔
      screen.width ≠ 0 ∧ panelHead screen title style = .error e := by
  rw [panel_boxed_eq_perform, perform]
  by_cases hwidth : screen.width = 0
  · -- nothing is looked at
    have hlines : panelLines screen (.text t) title style = .ok [] := if_pos hwidth
    rw [hlines]
    refine iff_of_false ?_ fun hor => hor.1 hwidth
    intro herror
    cases herror
  · obtain ⟨lines, hlines⟩ := shows_text_iff.2
      (.inr (showsText_of_not_isMarkup h screen.emoji (Box.panelWidth screen.width)))
    rw [panelLines_eq hwidth hlines, map_bind_pure, map_eq_error_iff]
    exact (and_iff_right hwidth).symm

theorem cells_framed (h : 0 < Box.panelWidth width) (line : Text) :
    (Box.framed width line).cells = width := by
  have hedges : Text.cells "│ " = 2 ∧ Text.cells " │" = 2 := by decide +kernel
  rw [Box.framed, Text.cells_append, Text.cells_append, Text.cells_fit, hedges.1, hedges.2]
  rw [Box.panelWidth] at h ⊢
  omega

theorem panel_boxed_of_fits (hshown : shownText screen.emoji t = .ok ⟨u, []⟩)
    (hfits : ∀ line ∈ u.splitOn '\n', Fits (Box.panelWidth screen.width) line)
    (hout : (boxed screen).panel t title style = .ok out) :
    ∃ top bottom,
      out = written (top :: (u.splitOn '\n').map (Box.framed screen.width) ++ [bottom]) := by
  have hroom := Passage.room_of_fits hfits
  have hlines : messageLines screen.emoji (Box.panelWidth screen.width) (.text t) =
      .ok (u.splitOn '\n') := by
    rw [messageLines, if_neg hroom.ne']
    exact textLines_of_fits hshown hfits
  have hwidth : screen.width ≠ 0 := by
    rw [Box.panelWidth] at hroom
    omega
  have hscreen : ((u.splitOn '\n').map (Box.framed screen.width)).map (onScreen screen.width) =
      (u.splitOn '\n').map (Box.framed screen.width) := by
    apply map_onScreen
    intro line hline
    obtain ⟨inside, -, rfl⟩ := List.mem_map.1 hline
    exact (cells_framed hroom inside).le
  rw [panel_boxed_eq_perform, perform, panelLines_eq hwidth hlines, map_bind_pure,
    map_eq_ok_iff] at hout
  obtain ⟨top, -, rfl⟩ := hout
  rw [Box.frame, List.cons_append, List.map_cons, List.map_append, hscreen, List.map_singleton]
  exact ⟨_, _, rfl⟩

/-! ### Shown as text -/

/-- What shows of a text has no style, and is what is displayed of the text if it is displayable. -/
def Faithful (emoji : Markup.Emoji) (t : Text) (shown : Except Markup.Error Passage) : Prop :=
  ∃ u, shown = .ok ⟨u, []⟩ ∧ (Displayable t → u = displayed emoji t)

/-- A text is shown as text on a screen if none of its tags acts when it is escaped, … -/
structure ShownAsText (screen : Screen) (t : Text) : Prop where
  inert : Inert (Markup.pieces (Markup.escape t))
  /-- … if all of it is displayed, with emoji in place of their names in each stretch of it, but for
      the characters that never show, … -/
  parts : (stretches t).flatten = t
  unnamed : ':' ∉ t → displayed screen.emoji t = t.filter isShown
  /-- … if a cell shows it, and every table with such a cell can be written, … -/
  inCell : Faithful screen.emoji t (cell screen.emoji t)
  inTable : ∀ table : Table, table.Unbracketed → (∃ row ∈ table.rows, t ∈ row) →
    ∀ style wrap, checkStyle style = .ok () →
      ∃ out, (boxed screen).table table style wrap = .ok out
  /-- … if a message shows it in which no closing tag begins, and can be reported, … -/
  inMessage : isMarkup t = false → Faithful screen.emoji t (shownText screen.emoji t)
  inReport : isMarkup t = false → ∃ out, (boxed screen).report t = .ok out
  /-- … if a panel fails with it only if it fails with no text in it, … -/
  inPanel : isMarkup t = false → ∀ title style e,
    (boxed screen).panel t title style = .error e ↔ (boxed screen).panel [] title style = .error e
  /-- … and if, where it is displayable and its lines fit, a report writes it as it is, a panel its
      lines in a frame, … -/
  reported : isMarkup t = false → Displayable t →
    (∀ line ∈ Text.splitOn '\n' (displayed screen.emoji t), Fits screen.width line) →
    (boxed screen).report t = .ok (written [displayed screen.emoji t])
  paneled : isMarkup t = false → Displayable t →
    (∀ line ∈ Text.splitOn '\n' (displayed screen.emoji t),
      Fits (Box.panelWidth screen.width) line) →
    ∀ title style out, (boxed screen).panel t title style = .ok out → ∃ top bottom,
      out = written (top :: (Text.splitOn '\n' (displayed screen.emoji t)).map
        (Box.framed screen.width) ++ [bottom])
  /-- … and a table its lines in the column of the cell, one below the other. -/
  tabled : Displayable t → ∀ (table : Table) (row : List Text) (j w : Nat) (wrap : Bool),
    row ∈ table.rows → row[j]? = some t →
    HasColumn screen.emoji (tableRoom screen wrap) table j w →
    (∀ line ∈ Text.splitOn '\n' (displayed screen.emoji t), Fits (w - Columns.padding) line) →
    ∀ style out, (boxed screen).table table style wrap = .ok out → ∃ lines, out = written lines ∧
      ∃ width ≤ screen.width, Stands width
        ((Text.splitOn '\n' (displayed screen.emoji t)).map (inColumn w)) lines

theorem shownText_of_displayable (h : isMarkup t = false) (hdisplayable : Displayable t) :
    shownText emoji t = .ok ⟨displayed emoji t, []⟩ := by
  rw [shownText_of_not_isMarkup h]
  exact Markup.render_escape_of_displayable hdisplayable

theorem faithful_cell (emoji : Markup.Emoji) (t : Text) : Faithful emoji t (cell emoji t) := by
  obtain ⟨u, hu⟩ := Markup.exists_render_escape emoji t
  refine ⟨u, hu, ?_⟩
  intro h
  rw [Markup.render_escape_of_displayable h] at hu
  exact (congrArg Passage.text (Except.ok.inj hu)).symm

/-- **Every text is shown as text**, on every screen. -/
theorem escaped_text_shows_as_text (screen : Screen) (t : Text) : ShownAsText screen t where
  inert := Markup.inert_pieces_escape t
  parts := Markup.flatten_stretches t
  unnamed := Markup.displayed_of_not_mem
  inCell := faithful_cell screen.emoji t
  inTable := by
    intro table h _ style wrap hstyle
    exact exists_table_styled (boxed screen) h hstyle wrap
  inMessage := by
    intro h
    rw [shownText_of_not_isMarkup h]
    exact faithful_cell screen.emoji t
  inReport := by
    intro h
    exact (exists_report_boxed_iff t).2 (showsText_of_not_isMarkup h _ _)
  inPanel := by
    intro h title style e
    rw [panel_boxed_error_iff h, panel_boxed_error_iff rfl]
  reported := by
    intro h hdisplayable hfits
    exact report_boxed_of_fits (shownText_of_displayable h hdisplayable) hfits
  paneled := by
    intro h hdisplayable hfits title style out hout
    exact panel_boxed_of_fits (shownText_of_displayable h hdisplayable) hfits hout
  tabled := by
    intro hdisplayable table row j w wrap hrow ht hcolumn hfits style out hout
    have hcell : cell screen.emoji t = .ok ⟨displayed screen.emoji t, []⟩ :=
      Markup.render_escape_of_displayable hdisplayable
    exact table_boxed_stands hout hcolumn hrow ht hcell hfits

/-- A backslash before a tag shows, and so does the tag. -/
theorem escaped_text_shows_as_text_of_slashed_tag :
    cell Screen.wide.emoji "\\[bold] [x" = .ok ⟨"\\[bold] [x", []⟩ ∧
      (boxed .wide).report "\\[bold] [x" = .ok "\\[bold] [x\n" ∧
      ∃ lines, (boxed .wide).table ⟨none, ["Name"], [["\\[bold] [x"]]⟩ none false =
          .ok (written lines) ∧
        ∃ width ≤ 120, Stands width ["│ \\[bold] [x │"] lines := by
  have h := escaped_text_shows_as_text .wide "\\[bold] [x"
  have hdisplayable : Displayable "\\[bold] [x" :=
    Markup.visible_eq_self_iff.1 (by decide +kernel)
  have hdisplayed : displayed Screen.wide.emoji "\\[bold] [x" = "\\[bold] [x" := by decide +kernel
  have hfits : ∀ line ∈ Text.splitOn '\n' (displayed Screen.wide.emoji "\\[bold] [x"),
      Fits 10 line := by
    intro line hline
    rw [hdisplayed] at hline
    rw [List.mem_singleton.1 hline]
    exact ⟨by decide, by decide, by decide, by decide⟩
  refine ⟨?_, ?_, ?_⟩
  · obtain ⟨u, hu, hsame⟩ := h.inCell
    rw [hu, hsame hdisplayable, hdisplayed]
  · rw [h.reported rfl hdisplayable fun line hline => (hfits line hline).mono (by decide),
      hdisplayed]
    rfl
  · have hunbracketed : Table.Unbracketed ⟨none, ["Name"], [["\\[bold] [x"]]⟩ :=
      ⟨by decide, by decide⟩
    obtain ⟨out, hout⟩ := h.inTable _ hunbracketed ⟨_, List.mem_singleton_self _,
      List.mem_singleton_self _⟩ none false rfl
    have hcolumn : HasColumn Screen.wide.emoji 120 ⟨none, ["Name"], [["\\[bold] [x"]]⟩ 0 12 :=
      ⟨⟨[⟨"Name", []⟩], [[⟨"\\[bold] [x", []⟩]]⟩, by decide +kernel, by decide +kernel⟩
    obtain ⟨lines, rfl, hstands⟩ := h.tabled hdisplayable _ _ 0 12 false
      (List.mem_singleton_self _) rfl hcolumn hfits none _ hout
    rw [hdisplayed] at hstands
    exact ⟨lines, hout, hstands⟩

/-- Emoji of which only one has a name. -/
def smile : Markup.Emoji where
  replace t := if t = ":smile:" then "😄" else t
  replace_of_not_mem := by
    intro t ht
    rw [if_neg]
    rintro rfl
    exact ht List.mem_cons_self

/-- Some texts are displayable and yet do not show as they are: a carriage return is lost, an emoji
    takes the place of its name, and a tab is written as spaces. -/
theorem displayable_texts_show_otherwise :
    (isMarkup "a\rb" = false ∧ Displayable "a\rb" ∧ (boxed .wide).report "a\rb" = .ok "ab\n" ∧
      ∀ spans, shownText .none "a\rb" ≠ .ok ⟨"a\rb", spans⟩) ∧
    (isMarkup ":smile:" = false ∧ Displayable ":smile:" ∧
      (boxed ⟨120, smile⟩).report ":smile:" = .ok "😄\n") ∧
    (isMarkup "a\tb" = false ∧ Displayable "a\tb" ∧
      (boxed .wide).report "a\tb" = .ok "a       b\n") := by
  have hdisplayable : ∀ t ∈ (["a\rb", ":smile:", "a\tb"] : List Text), Displayable t := by
    intro t ht
    apply Markup.visible_eq_self_iff.1
    revert t
    decide +kernel
  have hshown : shownText .none "a\rb" = .ok ⟨"ab", []⟩ := by decide +kernel
  refine ⟨⟨rfl, hdisplayable _ (by decide), by decide +kernel, ?_⟩,
    ⟨rfl, hdisplayable _ (by decide), by decide +kernel⟩,
    ⟨rfl, hdisplayable _ (by decide), by decide +kernel⟩⟩
  intro spans h
  rw [hshown] at h
  have htext : ("ab" : Text) = "a\rb" := congrArg Passage.text (Except.ok.inj h)
  exact absurd htext (by decide)

end CommandLang.Console
