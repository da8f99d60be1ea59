/-
  CommandLang/Proofs/Help/Lines.lean
  ==================================
  **Whether a command takes arguments shows in the help on it and in its row.**

  Help is a text of several lines.  If no name and no description has a line break
  (`Vocabulary.SingleLine`), its lines are those that it was made of (`lines_help`), and
  `Args: none` is one of them exactly if the command has no specs (`args_none_mem_helpLines_iff`).
  In the table of commands, the row of such a command and of no other ends with a dash
  (`row_eq_dashed_iff`).
-/
import CommandLang.Help
import CommandLang.Proofs.Builtin
import CommandLang.Proofs.Catalog
import CommandLang.Proofs.Numeral
import CommandLang.Proofs.Spec
import CommandLang.Report.Table

namespace CommandLang

theorem Text.ne_of_head?_ne {t u : Text} (h : t.head? ≠ u.head?) : t ≠ u := by
  rintro rfl
  exact h rfl

/-- Kinds are called by words. -/
theorem Kind.not_mem_label {x : Char} (hx : x.isAlpha = false) (kind : Kind) :
    x ∉ kind.label := by
  have hletters : kind.label.all Char.isAlpha = true := by
    cases kind <;> decide
  intro hmem
  have hletter := List.all_eq_true.1 hletters x hmem
  rw [hx] at hletter
  cases hletter

theorem Kind.newline_not_mem_label (kind : Kind) : '\n' ∉ kind.label :=
  not_mem_label (by decide) kind

theorem Numeral.newline_not_mem_write (n : Int) : '\n' ∉ write n :=
  not_mem_write (by decide) (by decide) n

namespace Vocabulary

variable {v : Vocabulary} {c : Command}

/-! ### The lines of help -/

theorem exists_of_sharedWith {name : Text} (h : v.sharedWith? c = some name) :
    ∃ other ∈ v.commands, other.name = name := by
  unfold sharedWith? at h
  split at h
  · rename_i other hfind
    split at h
    · cases h
    · exact ⟨other, List.mem_of_find?_eq_some hfind, Option.some.inj h⟩
  · cases h

/-- Help says `Args: none` of a command without specs and of no other. -/
theorem args_none_mem_helpLines_iff :
    ("Args: none" : Text) ∈ v.helpLines c ↔ v.specsFor c.id = [] := by
  -- no other line begins with the same letter, but for the heading of the arguments
  have hne : ∀ t : Text, t.head? ≠ some 'A' → ("Args: none" : Text) ≠ t := by
    intro t ht
    refine Text.ne_of_head?_ne (Ne.symm ?_)
    simpa using ht
  have hlabel : ∀ label value : Text, label.head? ≠ some 'A' → label ≠ [] →
      ("Args: none" : Text) ≠ labelled label value := by
    intro label value hlabel hempty
    apply hne
    cases label with
    | nil => exact absurd rfl hempty
    | cons x label => simpa [labelled] using hlabel
  have hspec : ∀ role s, ("Args: none" : Text) ≠ specLine role s := by
    intro role s
    apply hne
    simp [specLine]
  have hheading : ("Args: none" : Text) ≠ "Args:" := by decide
  rw [helpLines, List.mem_append]
  constructor
  · rintro (hmem | hmem)
    · simp only [List.mem_cons, List.not_mem_nil, or_false] at hmem
      rcases hmem with h | h | h
      · exact absurd h (hlabel _ _ (by decide) (by decide))
      · exact absurd h (hlabel _ _ (by decide) (by decide))
      · exact absurd h (hlabel _ _ (by decide) (by decide))
    · unfold argumentLines at hmem
      split at hmem
      · assumption
      · simp only [List.mem_append, List.mem_cons, List.mem_map, List.not_mem_nil, or_false,
          Option.mem_toList] at hmem
        rcases hmem with ((⟨name, -, h⟩ | h) | h | ⟨s, -, h⟩) | h | h
        · exact absurd h.symm (hlabel _ _ (by decide) (by decide))
        · exact absurd h hheading
        · exact absurd h (hspec _ _)
        · exact absurd h.symm (hspec _ _)
        · exact absurd h (by decide)
        · exact absurd h (hlabel _ _ (by decide) (by decide))
  · intro hspecs
    right
    simp [argumentLines, hspecs, labelled]

/-- No name and no description in the vocabulary has a line break. -/
structure SingleLine (v : Vocabulary) : Prop where
  commands : ∀ c ∈ v.commands, '\n' ∉ c.name ∧ '\n' ∉ c.description
  specs : ∀ s ∈ v.specs, '\n' ∉ s.name

theorem newline_not_mem_argumentLines (hv : v.SingleLine) (hc : '\n' ∉ c.name) :
    ∀ line ∈ v.argumentLines c, '\n' ∉ line := by
  have hspecs : ∀ s ∈ v.specsFor c.id, '\n' ∉ s.name := fun s hs =>
    hv.specs s ((v.specsFor_sublist c.id).subset hs)
  unfold argumentLines
  split
  · intro line hline
    rw [List.mem_singleton.1 hline]
    decide
  · rename_i first others hfound
    rw [hfound] at hspecs
    obtain ⟨hfirst, hothers⟩ := List.forall_mem_cons.1 hspecs
    intro line hmem
    simp only [List.mem_append, List.mem_cons, List.mem_map, List.not_mem_nil, or_false,
      Option.mem_toList] at hmem
    rcases hmem with ((⟨name, hname, rfl⟩ | rfl) | rfl | ⟨s, hs, rfl⟩) | rfl | rfl
    · obtain ⟨other, hother, rfl⟩ := exists_of_sharedWith hname
      simp [labelled, (hv.commands other hother).1]
    · decide
    · simp [specLine, hfirst, first.kind.newline_not_mem_label]
    · simp [specLine, hothers s hs, s.kind.newline_not_mem_label]
    · exact List.not_mem_nil
    · simp [usageLine, labelled, hc, hfirst]

/-- The lines of the help on a command are those that it was made of. -/
theorem lines_help (hv : v.SingleLine) (hfind : v.commands.find? c.id = some c) :
    Text.splitOn '\n' (v.help c.id) = v.helpLines c := by
  obtain ⟨hname, hdescription⟩ := hv.commands c (List.mem_of_find?_eq_some hfind)
  have hlines : ∀ line ∈ v.helpLines c, '\n' ∉ line := by
    rw [helpLines]
    refine List.forall_mem_append.2 ⟨?_, newline_not_mem_argumentLines hv hname⟩
    simp [labelled, hname, hdescription, Numeral.newline_not_mem_write]
  have hhelp : v.help c.id = Text.join ['\n'] (v.helpLines c) := by
    rw [help, hfind]
    rfl
  rw [hhelp, Text.splitOn_join (by simp [helpLines]) hlines]

/-! ### The row of a command -/

/-- The row of a command ends with a dash if it has no specs, and else with their names. -/
theorem row_eq_dashed_iff (hnames : ∀ s ∈ v.specs, s.name ≠ [] ∧ s.name.head? ≠ some '-') :
    v.row c = [Numeral.write c.id, c.name, c.description, "-"] ↔ v.specsFor c.id = [] := by
  have hspecs : ∀ s ∈ v.specsFor c.id, s.name ≠ [] ∧ s.name.head? ≠ some '-' := fun s hs =>
    hnames s ((v.specsFor_sublist c.id).subset hs)
  cases hfound : v.specsFor c.id with
  | nil => simp [row, hfound, orDash, Text.join]
  | cons first others =>
    rw [hfound] at hspecs
    obtain ⟨hne, hhead⟩ := (List.forall_mem_cons.1 hspecs).1
    have hjoin := Text.head?_join_cons ", " hne (others.map Spec.name)
    have hcell : orDash (Text.join ", " ((first :: others).map Spec.name)) ≠ "-" := by
      apply Text.ne_of_head?_ne
      rw [List.map_cons, orDash]
      split
      · rename_i hempty
        rw [List.isEmpty_iff.1 hempty] at hjoin
        exact absurd (List.head?_eq_none_iff.1 hjoin.symm) hne
      · rw [hjoin]
        exact hhead
    rw [row, hfound]
    constructor
    · intro h
      simp only [List.cons.injEq, true_and, and_true] at h
      exact absurd h hcell
    · intro h
      cases h

end Vocabulary

end CommandLang
