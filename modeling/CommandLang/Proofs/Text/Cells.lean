/-
  CommandLang/Proofs/Text/Cells.lean
  ==================================
  **A text can be made exactly as wide as is asked for.**

  A text that is too wide is cut off at a place that is found by halving.  A character takes two
  cells at most, so that the width of longer and longer beginnings never leaves out two numbers in a
  row; and where it leaves out the one that is asked for, a space takes the place of the character.
  Between the bounds of the search there is always such a place (`Encloses`), and they come closer
  with each step.

  Main statement: `cells_fit`.
-/
import CommandLang.Text.Cells
import Mathlib.Data.List.Basic

namespace CommandLang.Text

variable {width low high steps i j : Nat} {t : Text}

theorem charCells_le_two (c : Char) : charCells c ≤ 2 := by
  unfold charCells
  split_ifs <;> omega

/-! ### Beginnings of a text -/

theorem cells_take_le (h : i ≤ j) (t : Text) : cells (t.take i) ≤ cells (t.take j) := by
  obtain ⟨more, hmore⟩ := List.take_prefix_take_left (l := t) h
  have hcells : cells (t.take j) = cells (t.take i) + cells more := by rw [← cells_append, hmore]
  omega

theorem cells_take_succ (h : i < t.length) :
    cells (t.take (i + 1)) = cells (t.take i) + charCells t[i] := by
  rw [← List.take_append_getElem h, cells_append]
  rfl

/-! ### The search -/

/-- The bounds of the search: what begins a text up to the lower one is too narrow, and up to the
    upper one wide enough. -/
structure Encloses (width : Nat) (t : Text) (low high : Nat) : Prop where
  narrow : low = 0 ∨ cells (t.take (low + 1)) < width
  wide : width ≤ cells (t.take high)
  within : high ≤ t.length

theorem Encloses.lt (h : Encloses width t low high) (hwidth : 0 < width) : low < high := by
  have hwide := h.wide
  rcases h.narrow with rfl | hnarrow
  · -- nothing at all is too narrow
    by_contra hzero
    rw [Nat.eq_zero_of_not_pos hzero, List.take_zero, cells_nil] at hwide
    omega
  · by_contra hle
    have hcells := cells_take_le (i := high) (j := low + 1) (by omega) t
    omega

/-- What is too wide by one cell, and ends in a character of two, is filled up without that one. -/
theorem cells_dropLast_of_double (hi : i < t.length) (hcells : cells (t.take (i + 1)) = width + 1)
    (hlast : ((t.take (i + 1)).getLast?.map charCells) = some 2) :
    cells ((t.take (i + 1)).dropLast ++ [' ']) = width := by
  have hspace : charCells ' ' = 1 := by decide
  rw [cells_take_succ hi] at hcells
  rw [← List.take_append_getElem hi, List.getLast?_concat, Option.map_some,
    Option.some.injEq] at hlast
  rw [← List.take_append_getElem hi, List.dropLast_concat, cells_append, cells_cons, cells_nil]
  omega

/-- Where what begins a text is too wide, but not by half a character, what is one character shorter
    is wide enough. -/
theorem le_cells_take_of_lt (hi : i < t.length) (hcells : width < cells (t.take (i + 1)))
    (hlast : ¬ (cells (t.take (i + 1)) = width + 1 ∧
      ((t.take (i + 1)).getLast?.map charCells) = some 2)) : width ≤ cells (t.take i) := by
  have htwo := charCells_le_two t[i]
  rw [← List.take_append_getElem hi, List.getLast?_concat, Option.map_some, Option.some.injEq,
    List.take_append_getElem hi, cells_take_succ hi] at hlast
  rw [cells_take_succ hi] at hcells
  omega

/-- The search ends, as the bounds come closer with each step. -/
theorem cells_beginningOfWidth (hwidth : 0 < width) (h : Encloses width t low high)
    (hsteps : high < low + steps) : cells (beginningOfWidth width t low high steps) = width := by
  have hlt := h.lt hwidth
  induction steps generalizing low high with
  | zero => omega
  | succ steps ih =>
    have hlength := h.within
    have hmiddle : (low + high) / 2 < t.length := by omega
    rw [beginningOfWidth]
    split_ifs with hdouble hcells hover
    · exact cells_dropLast_of_double hmiddle hdouble.1 hdouble.2
    · exact hcells
    · have hnext : Encloses width t low ((low + high) / 2) :=
        ⟨h.narrow, le_cells_take_of_lt hmiddle hover hdouble, Nat.le_of_lt hmiddle⟩
      exact ih hnext (by omega) (hnext.lt hwidth)
    · have hnext : Encloses width t ((low + high) / 2) high :=
        ⟨.inr (by omega), h.wide, h.within⟩
      -- the middle is above the lower bound, or what begins up to the upper one would be too narrow
      have habove : low < (low + high) / 2 := by
        by_contra hbelow
        have heq : (low + high) / 2 + 1 = high := by omega
        have hwide := h.wide
        rw [← heq] at hwide
        omega
      exact ih hnext (by omega) (hnext.lt hwidth)

/-- **A text is made exactly as wide as is asked for.** -/
theorem cells_fit (width : Nat) (t : Text) : cells (fit width t) = width := by
  rw [fit]
  split_ifs with hle hzero
  · rw [cells_append, cells_spaces]
    omega
  · rw [hzero]
    rfl
  · apply cells_beginningOfWidth (by omega)
    · refine ⟨.inl rfl, ?_, Nat.le_refl _⟩
      rw [List.take_length]
      omega
    · omega

end CommandLang.Text
