/-
  CommandLang/Proofs/Report/Passage.lean
  ======================================
  **Passages without styles.**

  Drawing fails only by a style.  A passage in which nothing has a style has none after it was cut,
  filled, broken into lines or put in its place; so it can always be drawn (`exists_draw`).
-/
import CommandLang.Report.Passage

namespace CommandLang.Passage

/-- Nothing in the passage has a style. -/
def Unstyled (p : Passage) : Prop := p.spans = []

variable {p q : Passage}

theorem unstyled_text (t : Text) : Unstyled ⟨t, []⟩ := rfl

/-! ### Cutting and joining -/

theorem Unstyled.append (hp : p.Unstyled) (hq : q.Unstyled) : (p.append q).Unstyled := by
  rw [Unstyled] at hp hq ⊢
  rw [Passage.append, hp, hq]
  rfl

theorem Unstyled.between (hp : p.Unstyled) (start stop : Nat) :
    (p.between start stop).Unstyled := by
  rw [Unstyled] at hp ⊢
  rw [Passage.between, hp]
  rfl

theorem Unstyled.withText (hp : p.Unstyled) (t : Text) : (p.withText t).Unstyled := by
  rw [Unstyled] at hp ⊢
  rw [Passage.withText]
  split
  · rw [hp]
    rfl
  · exact hp

theorem Unstyled.prepend (hp : p.Unstyled) (t : Text) : (p.prepend t).Unstyled :=
  (unstyled_text t).append hp

theorem Unstyled.divide (hp : p.Unstyled) (cuts : List Nat) : ∀ q ∈ p.divide cuts, q.Unstyled := by
  intro q hq
  rw [Passage.divide] at hq
  split at hq
  · rwa [List.mem_singleton.1 hq]
  · obtain ⟨⟨a, b⟩, -, rfl⟩ := List.mem_map.1 hq
    exact hp.between a b

theorem Unstyled.lines (hp : p.Unstyled) : ∀ q ∈ p.lines, q.Unstyled := by
  intro q hq
  rw [Passage.lines] at hq
  split at hq
  · rwa [List.mem_singleton.1 hq]
  · obtain ⟨⟨a, b⟩, -, rfl⟩ := List.mem_map.1 hq
    exact hp.between a b

/-! ### Tabs -/

theorem Unstyled.tabParts (hp : p.Unstyled) : ∀ q ∈ p.tabParts, q.Unstyled := by
  intro q hq
  rw [Passage.tabParts] at hq
  split at hq
  · exact hp.divide _ q (List.dropLast_subset _ hq)
  · exact hp.divide _ q hq

theorem unstyled_expandParts {parts : List Passage} (h : ∀ q ∈ parts, q.Unstyled) (column : Nat) :
    (expandParts column parts).Unstyled := by
  induction parts generalizing column with
  | nil => rfl
  | cons part rest ih =>
    have hpart : part.spans = [] := h part List.mem_cons_self
    have hrest := ih fun q hq => h q (List.mem_cons_of_mem _ hq)
    rw [expandParts]
    apply Unstyled.append
    · rw [Unstyled, hpart]
      rfl
    · exact hrest _

theorem Unstyled.expandTabs (hp : p.Unstyled) : p.expandTabs.Unstyled := by
  rw [Passage.expandTabs]
  split
  · exact unstyled_expandParts hp.tabParts 0
  · exact hp

/-! ### Layout -/

theorem Unstyled.truncate (hp : p.Unstyled) (layout : Layout) : (p.truncate layout).Unstyled := by
  rw [Passage.truncate]
  split
  · exact hp
  · split
    · exact hp.withText _
    · exact hp.withText _

theorem Unstyled.trimEnd (hp : p.Unstyled) (size : Nat) : (p.trimEnd size).Unstyled :=
  hp.withText _

theorem Unstyled.align (hp : p.Unstyled) (layout : Layout) : (p.align layout).Unstyled := by
  rw [Passage.align]
  split
  · exact hp
  · exact (hp.truncate layout).withText _
  · exact (((hp.withText _).truncate layout).prepend _).withText _

theorem Unstyled.wrapLine (hp : p.Unstyled) (layout : Layout) :
    ∀ q ∈ p.wrapLine layout, q.Unstyled := by
  intro q hq
  obtain ⟨line, hline, rfl⟩ := List.mem_map.1 hq
  have hunstyled := hp.expandTabs.divide _ line hline
  exact ((hunstyled.trimEnd _).align layout).truncate layout

theorem Unstyled.wrap (hp : p.Unstyled) (layout : Layout) : ∀ q ∈ p.wrap layout, q.Unstyled := by
  intro q hq
  obtain ⟨line, hline, hmem⟩ := List.mem_flatMap.1 hq
  exact (hp.lines line hline).wrapLine layout q hmem

/-! ### Drawing -/

theorem checkStyles_of_unstyled {ps : List Passage} (h : ∀ p ∈ ps, p.Unstyled) :
    checkStyles ps = .ok () := by
  have hnone : ps.flatMap Passage.spans = [] := by
    rw [List.flatMap_eq_nil_iff]
    exact h
  rw [checkStyles, hnone]
  rfl

/-- A passage without styles can be drawn. -/
theorem Unstyled.exists_draw (hp : p.Unstyled) (layout : Layout) :
    ∃ lines, p.draw layout = .ok lines := by
  rw [draw]
  split
  · exact ⟨[], rfl⟩
  · simp only [checkStyles_of_unstyled (hp.wrap layout)]
    exact ⟨_, rfl⟩

end CommandLang.Passage
