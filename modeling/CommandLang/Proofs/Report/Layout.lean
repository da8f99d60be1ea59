/-
  CommandLang/Proofs/Report/Layout.lean
  =====================================
  **Texts that fit are drawn as they are.**

  A line that has no tab and is no wider than there is room stays as it is: words are put on a new
  line only where they do not fit (`wordBreaks_of_fits`), blanks are taken off the end and the rest
  is cut off only where a line is too long.  So a text that has no styles and whose lines all fit is
  drawn as these lines (`draw_of_fits`), and in a column they are filled up (`draw_left_of_fits`).
-/
import CommandLang.Proofs.Except
import CommandLang.Proofs.Report.Passage
import CommandLang.Proofs.Text
import CommandLang.Proofs.Text.Cells
import Mathlib.Data.List.Basic

namespace CommandLang

namespace Text

variable {width start used : Nat} {t : Text} {words : List Text}

/-! ### Where a line is broken -/

theorem cells_takeWhile_add_dropWhile (p : Char → Bool) (t : Text) :
    cells (t.takeWhile p) + cells (t.dropWhile p) = cells t := by
  rw [← cells_append, List.takeWhile_append_dropWhile]

theorem cells_trimRight_le (t : Text) : cells t.trimRight ≤ cells t := by
  obtain ⟨blanks, ht⟩ := trimRight_prefix t
  have hcells : cells t.trimRight + cells blanks = cells t := by rw [← cells_append, ht]
  omega

theorem cells_wordPieces_le (t : Text) : cells t.wordPieces.flatten ≤ cells t := by
  fun_induction wordPieces t with
  | case1 t _ => exact Nat.zero_le _
  | case2 t c r h rest ih =>
    have htext := cells_takeWhile_add_dropWhile isBlank t
    have hword := cells_takeWhile_add_dropWhile (!isBlank ·) r
    have hblanks : cells (rest.takeWhile isBlank) + cells (rest.dropWhile isBlank) =
        cells (r.dropWhile (!isBlank ·)) := cells_takeWhile_add_dropWhile isBlank rest
    rw [h, cells_cons] at htext
    simp only [List.flatten_cons, cells_append, cells_cons]
    omega

theorem wordBreaks_of_fits (fold : Bool) (h : used + cells words.flatten ≤ width) :
    wordBreaks width fold start used words = [] := by
  induction words generalizing start used with
  | nil => rfl
  | cons word words ih =>
    rw [List.flatten_cons, cells_append] at h
    have htrim := cells_trimRight_le word
    rw [wordBreaks, if_pos (by omega)]
    apply ih
    omega

theorem breaks_of_fits (fold : Bool) (h : cells t ≤ width) : breaks width fold t = [] := by
  apply wordBreaks_of_fits
  rw [Nat.zero_add]
  exact (cells_wordPieces_le t).trans h

end Text

namespace Passage

variable {width : Nat} {t line : Text}

/-! ### Lines of a text -/

theorem between_append (before piece behind : Text) :
    between before.length (before.length + piece.length) ⟨before ++ (piece ++ behind), []⟩ =
      ⟨piece, []⟩ := by
  simp [between, List.take_append]

/-- What stands between the bounds of the lines are the lines. -/
theorem map_between_lineBounds (before : Text) (pieces : List Text) :
    (lineBounds before.length pieces).map
        (fun b => between b.1 b.2 ⟨before ++ Text.join "\n" pieces, []⟩) =
      pieces.map fun piece => ⟨piece, []⟩ := by
  induction pieces generalizing before with
  | nil => rfl
  | cons piece pieces ih =>
    rw [lineBounds, List.map_cons, List.map_cons]
    cases pieces with
    | nil =>
      have hlast := between_append before piece []
      rw [List.append_nil] at hlast
      rw [Text.join_singleton, hlast]
      rfl
    | cons next pieces =>
      have hnext := ih (before ++ piece ++ ['\n'])
      have hbefore : (before ++ piece ++ ['\n']).length = before.length + piece.length + 1 := by
        simp [Nat.add_assoc]
      have hjoin : before ++ Text.join "\n" (piece :: next :: pieces) =
          before ++ piece ++ ['\n'] ++ Text.join "\n" (next :: pieces) := by
        rw [Text.join_cons_cons]
        simp
      rw [hbefore] at hnext
      rw [hjoin, hnext, List.append_assoc, List.append_assoc, between_append]

theorem lines_text (t : Text) :
    lines ⟨t, []⟩ = (t.splitOn '\n').map fun piece => ⟨piece, []⟩ := by
  have hjoin : Text.join "\n" (t.splitOn '\n') = t := Text.join_splitOn '\n' t
  have hbounds := map_between_lineBounds [] (t.splitOn '\n')
  rw [List.nil_append, hjoin] at hbounds
  rw [lines]
  split
  · rename_i piece hpiece
    rw [hpiece, Text.join_singleton] at hjoin
    rw [hpiece, hjoin]
    rfl
  · exact hbounds

/-! ### Lines that fit -/

/-- The line can be put where so much room is available, as it is. -/
structure Fits (width : Nat) (line : Text) : Prop where
  room : 0 < width
  tabless : '\t' ∉ line
  cells : line.cells ≤ width
  length : line.length ≤ width

theorem Fits.mono (h : Fits width line) {wider : Nat} (hle : width ≤ wider) : Fits wider line :=
  ⟨h.room.trans_le hle, h.tabless, h.cells.trans hle, h.length.trans hle⟩

@[simp] theorem text_withText (t : Text) (p : Passage) : (p.withText t).text = t := by
  rw [withText]
  split <;> rfl

theorem withText_unstyled (t u : Text) : withText t ⟨u, []⟩ = ⟨t, []⟩ := by
  rw [withText]
  split <;> rfl

theorem truncate_of_le {layout : Layout} {p : Passage} (h : p.text.cells ≤ layout.width) :
    p.truncate layout = p := if_pos h

theorem trimEnd_of_le {size : Nat} (h : t.length ≤ size) : trimEnd size ⟨t, []⟩ = ⟨t, []⟩ := by
  rw [trimEnd, Nat.sub_eq_zero_of_le h, Nat.min_zero, Nat.sub_zero, List.take_length]
  exact withText_unstyled t t

theorem expandTabs_of_not_mem {p : Passage} (h : '\t' ∉ p.text) : p.expandTabs = p := by
  apply if_neg
  rw [List.contains_iff_mem]
  exact h

/-- A line that fits is put in its place and not broken. -/
theorem wrapLine_of_fits {layout : Layout} (h : Fits layout.width line) :
    wrapLine layout ⟨line, []⟩ = [(align layout ⟨line, []⟩).truncate layout] := by
  rw [wrapLine, expandTabs_of_not_mem h.tabless, Text.breaks_of_fits _ h.cells]
  simp only [divide, List.isEmpty_nil, if_true, List.map_singleton]
  rw [trimEnd_of_le h.length]

theorem wrapLine_ragged (h : Fits width line) :
    wrapLine ⟨width, .ragged, .fold⟩ ⟨line, []⟩ = [⟨line, []⟩] := by
  rw [wrapLine_of_fits h, align, truncate_of_le h.cells]

/-- On the left, a line is filled up. -/
theorem wrapLine_left (h : Fits width line) :
    wrapLine ⟨width, .left, .ellipsis⟩ ⟨line, []⟩ = [⟨line.fit width, []⟩] := by
  have hfill : line.fill width = line.fit width := by rw [Text.fit, if_pos h.cells, Text.fill]
  have htruncate : truncate ⟨width, .left, .ellipsis⟩ ⟨line, []⟩ = ⟨line, []⟩ :=
    truncate_of_le h.cells
  have halign : align ⟨width, .left, .ellipsis⟩ ⟨line, []⟩ = ⟨line.fit width, []⟩ := by
    simp only [align, htruncate, withText_unstyled, hfill]
  rw [wrapLine_of_fits h, halign, truncate_of_le (Text.cells_fit width line).le]

/-- If each line of a text is laid out on one line, the text is drawn as these lines. -/
theorem draw_of_wrapLine {layout : Layout} {f : Text → Text} (hwidth : 0 < layout.width)
    (h : ∀ line ∈ t.splitOn '\n', wrapLine layout ⟨line, []⟩ = [⟨f line, []⟩]) :
    draw layout ⟨t, []⟩ = .ok ((t.splitOn '\n').map f) := by
  have hwrap : wrap layout ⟨t, []⟩ = (t.splitOn '\n').map fun line => ⟨f line, []⟩ := by
    rw [wrap, lines_text, List.flatMap_map, List.flatMap_congr h]
    exact List.flatMap_pure_eq_map _ _
  rw [draw, if_neg hwidth.ne']
  simp only [checkStyles_of_unstyled ((unstyled_text t).wrap layout)]
  rw [hwrap]
  exact congrArg Except.ok List.map_map

theorem room_of_fits (h : ∀ line ∈ t.splitOn '\n', Fits width line) : 0 < width := by
  obtain ⟨line, hline⟩ := List.exists_mem_of_ne_nil _ (Text.splitOn_ne_nil '\n' t)
  exact (h line hline).room

/-- **A text whose lines fit is drawn as it is.** -/
theorem draw_of_fits (h : ∀ line ∈ t.splitOn '\n', Fits width line) :
    draw ⟨width, .ragged, .fold⟩ ⟨t, []⟩ = .ok (t.splitOn '\n') := by
  rw [draw_of_wrapLine (f := id) (room_of_fits h) fun line hline => wrapLine_ragged (h line hline),
    List.map_id]

/-- In a column, its lines are filled up. -/
theorem draw_left_of_fits (h : ∀ line ∈ t.splitOn '\n', Fits width line) :
    draw ⟨width, .left, .ellipsis⟩ ⟨t, []⟩ = .ok ((t.splitOn '\n').map (Text.fit width)) :=
  draw_of_wrapLine (room_of_fits h) fun line hline => wrapLine_left (h line hline)

/-! ### Lines that are filled up -/

/-- With an ellipsis in place of what does not fit, a line is not too wide. -/
theorem cells_truncate_le (hwidth : 0 < width) (alignment : Alignment) (p : Passage) :
    (p.truncate ⟨width, alignment, .ellipsis⟩).text.cells ≤ width := by
  have hellipsis : charCells '…' = 1 := by decide +kernel
  rw [truncate]
  split
  · assumption
  · simp only [text_withText, Text.cells_append, Text.cells_fit, Text.cells_cons, Text.cells_nil,
      hellipsis]
    omega

theorem cells_align_left (hwidth : 0 < width) (p : Passage) :
    (p.align ⟨width, .left, .ellipsis⟩).text.cells = width := by
  have hcells := cells_truncate_le hwidth .left p
  simp only [align, text_withText, Text.fill, Text.cells_append, Text.cells_spaces]
  omega

/-- In a column, all lines are as wide as it is. -/
theorem cells_of_mem_draw_left {p : Passage} {drawn : List Text}
    (h : draw ⟨width, .left, .ellipsis⟩ p = .ok drawn) : ∀ line ∈ drawn, line.cells = width := by
  intro line hline
  rw [draw] at h
  split at h
  · cases h
    cases hline
  · rename_i hwidth
    obtain ⟨_, -, h⟩ := bind_eq_ok_iff.1 h
    cases h
    obtain ⟨q, hq, rfl⟩ := List.mem_map.1 hline
    obtain ⟨source, -, hq⟩ := List.mem_flatMap.1 hq
    obtain ⟨part, -, rfl⟩ := List.mem_map.1 hq
    have hcells := cells_align_left (Nat.pos_of_ne_zero hwidth) (part.trimEnd width)
    rw [truncate_of_le hcells.le]
    exact hcells

end Passage

end CommandLang
