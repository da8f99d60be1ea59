/-
  CommandLang/Proofs/Report/Columns.lean
  ======================================
  **Columns fit in the room there is for them.**

  Columns that are too wide together are made narrower.  Each pass takes something off one of the
  widest (`sum_takeOff_lt`), so that as many passes as the columns are wide are enough
  (`total_shrink_le`).  Afterwards each column is made as wide as its cells need, and that is no
  wider than it was.

  Main statement: the columns are together no wider than the room (`total_widths_le`).
-/
import CommandLang.Report.Columns
import Mathlib.Algebra.Order.BigOperators.Group.List
import Mathlib.Algebra.Order.Ring.Nat
import Mathlib.Data.List.Zip

namespace CommandLang.Columns

variable {available excess marked most steps m n : Nat} {ns : List Nat}
  {marks : List (Nat × Bool)}

/-! ### The greatest and the sum -/

theorem greatest_le_iff : greatest ns ≤ m ↔ ∀ n ∈ ns, n ≤ m := by
  have hfoldl : ∀ (ns : List Nat) (k : Nat), ns.foldl max k ≤ m ↔ k ≤ m ∧ ∀ n ∈ ns, n ≤ m := by
    intro ns
    induction ns with
    | nil => simp
    | cons n ns ih =>
      intro k
      rw [List.foldl_cons, ih, max_le_iff, List.forall_mem_cons, and_assoc]
  rw [greatest, hfoldl]
  exact and_iff_right (Nat.zero_le m)

theorem le_greatest (h : n ∈ ns) : n ≤ greatest ns := greatest_le_iff.1 le_rfl n h

theorem total_eq_sum (ns : List Nat) : total ns = ns.sum := List.sum_eq_foldl.symm

theorem greatest_mem (h : 0 < greatest ns) : greatest ns ∈ ns := by
  by_contra hmem
  have hless : greatest ns ≤ greatest ns - 1 := by
    rw [greatest_le_iff]
    intro n hn
    have hle := le_greatest hn
    have hne : n ≠ greatest ns := fun heq => hmem (heq ▸ hn)
    omega
  omega

theorem greatest_filter_ne_lt (h : 0 < greatest ns) :
    greatest (ns.filter (· ≠ greatest ns)) < greatest ns := by
  apply Nat.lt_of_le_sub_one h
  rw [greatest_le_iff]
  intro n hn
  rw [List.mem_filter, decide_eq_true_eq] at hn
  have hle := le_greatest hn.1
  omega

/-! ### One pass -/

theorem roundDiv_one (n : Nat) : roundDiv n 1 = n := by simp [roundDiv, Nat.mod_one]

theorem length_takeOff (most excess marked : Nat) (marks : List (Nat × Bool)) :
    (takeOff most excess marked marks).length = marks.length := by
  fun_induction takeOff most excess marked marks with
  | case1 => rfl
  | case2 _ _ _ _ _ ih => rw [List.length_cons, List.length_cons, ih]
  | case3 _ _ _ _ _ _ ih => rw [List.length_cons, List.length_cons, ih]

theorem sum_takeOff_le (most excess marked : Nat) (marks : List (Nat × Bool)) :
    (takeOff most excess marked marks).sum ≤ (marks.map (·.1)).sum := by
  fun_induction takeOff most excess marked marks with
  | case1 => exact le_rfl
  | case2 _ _ _ _ _ ih =>
    rw [List.sum_cons, List.map_cons, List.sum_cons]
    exact Nat.add_le_add (Nat.sub_le _ _) ih
  | case3 _ _ _ _ _ _ ih =>
    rw [List.sum_cons, List.map_cons, List.sum_cons]
    exact Nat.add_le_add_left ih _

/-- Something is taken off a width that is marked: if the parts are rounded to nothing before, the
    last one is all that is left. -/
theorem sum_takeOff_lt (hmost : 0 < most) (hexcess : 0 < excess)
    (hcount : marks.countP (·.2) = marked) (hmarked : 0 < marked)
    (hwidths : ∀ mark ∈ marks, mark.2 = true → 0 < mark.1) :
    (takeOff most excess marked marks).sum < (marks.map (·.1)).sum := by
  fun_induction takeOff most excess marked marks with
  | case1 =>
    subst hcount
    exact absurd hmarked (lt_irrefl 0)
  | case2 excess marked width rest part ih =>
    rw [List.forall_mem_cons] at hwidths
    have hwidth : 0 < width := hwidths.1 rfl
    rw [List.countP_cons_of_pos rfl] at hcount
    rw [List.sum_cons, List.map_cons, List.sum_cons]
    rcases Nat.eq_zero_or_pos part with hpart | hpart
    · -- the width was not the last one that is marked
      have hlast : marked ≠ 1 := by
        rintro rfl
        have hall : part = min most excess := by rw [← roundDiv_one excess]
        omega
      rw [hpart, Nat.sub_zero] at ih ⊢
      exact Nat.add_lt_add_left (ih hexcess (by omega) (by omega) hwidths.2) _
    · have hrest := sum_takeOff_le most (excess - part) (marked - 1) rest
      exact Nat.add_lt_add_of_lt_of_le (Nat.sub_lt hwidth hpart) hrest
  | case3 excess marked width isMarked rest hisMarked ih =>
    rw [List.forall_mem_cons] at hwidths
    rw [List.countP_cons_of_neg hisMarked] at hcount
    rw [List.sum_cons, List.map_cons, List.sum_cons]
    exact Nat.add_lt_add_left (ih hexcess hcount hmarked hwidths.2) _

/-! ### All passes -/

theorem length_shrink (available : Nat) (ns : List Nat) (steps : Nat) :
    (shrink available ns steps).length = ns.length := by
  induction steps generalizing ns with
  | zero => rfl
  | succ steps ih =>
    rw [shrink]
    split
    · rfl
    · rw [ih, length_takeOff, List.length_map]

/-- Each pass makes the columns narrower, so that they fit after as many as they are too wide. -/
theorem total_shrink_le (h : total ns ≤ available + steps) :
    total (shrink available ns steps) ≤ available := by
  induction steps generalizing ns with
  | zero => exact h
  | succ steps ih =>
    simp only [shrink]
    split
    · rename_i hstop
      rw [Bool.or_eq_true, decide_eq_true_eq, decide_eq_true_eq] at hstop
      rcases hstop with hexcess | hwidest
      · exact Nat.sub_eq_zero_iff_le.1 hexcess
      · have hzero : total ns = 0 := by
          rw [total_eq_sum]
          apply List.sum_eq_zero
          intro n hn
          exact Nat.le_zero.1 (hwidest ▸ le_greatest hn)
        rw [hzero]
        exact Nat.zero_le _
    · rename_i hgo
      rw [Bool.or_eq_true, decide_eq_true_eq, decide_eq_true_eq, not_or] at hgo
      obtain ⟨hexcess, hwidest⟩ := hgo
      have hpos : 0 < greatest ns := Nat.pos_of_ne_zero hwidest
      have hnext := greatest_filter_ne_lt hpos
      apply ih
      rw [total_eq_sum] at h ⊢
      refine Nat.le_of_lt_succ (Nat.lt_of_lt_of_le (sum_takeOff_lt ?_ ?_ rfl ?_ ?_) ?_)
      · omega
      · omega
      · rw [List.countP_pos_iff]
        exact ⟨_, List.mem_map_of_mem (greatest_mem hpos), beq_self_eq_true _⟩
      · intro mark hmark hmarked
        obtain ⟨n, -, rfl⟩ := List.mem_map.1 hmark
        rw [eq_of_beq hmarked]
        exact hpos
      · rw [List.map_map]
        exact (congrArg List.sum (List.map_id ns)).le.trans h

/-! ### Widths of columns -/

theorem cellWidth_le (available : Nat) (t : Text) : cellWidth available t ≤ available := by
  rw [cellWidth]
  split
  · exact le_rfl
  · exact Nat.min_le_left _ _

theorem columnWidth_le (available : Nat) (cells : List Text) :
    columnWidth available cells ≤ available := by
  rw [columnWidth, greatest_le_iff]
  intro n hn
  obtain ⟨t, -, rfl⟩ := List.mem_map.1 hn
  exact cellWidth_le available t

theorem length_widths (available : Nat) (columns : List (List Text)) :
    (widths available columns).length = columns.length := by
  rw [widths]
  split
  · rw [List.length_map]
  · rw [List.length_zipWith, length_shrink, List.length_map, Nat.min_self]

theorem sum_zipWith_columnWidth_le (ns : List Nat) (columns : List (List Text)) :
    (List.zipWith columnWidth ns columns).sum ≤ ns.sum := by
  induction ns generalizing columns with
  | nil => exact le_rfl
  | cons n ns ih =>
    cases columns with
    | nil => exact Nat.zero_le _
    | cons cells columns =>
      rw [List.zipWith_cons_cons, List.sum_cons, List.sum_cons]
      exact Nat.add_le_add (columnWidth_le n cells) (ih columns)

/-- **The columns are together no wider than the room.** -/
theorem total_widths_le (available : Nat) (columns : List (List Text)) :
    total (widths available columns) ≤ available := by
  simp only [widths]
  split
  · assumption
  · rw [total_eq_sum]
    refine (sum_zipWith_columnWidth_le _ columns).trans ?_
    rw [← total_eq_sum]
    exact total_shrink_le (Nat.le_add_left _ _)

end CommandLang.Columns
