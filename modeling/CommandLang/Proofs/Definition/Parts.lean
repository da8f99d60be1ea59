/-
  CommandLang/Proofs/Definition/Parts.lean
  ========================================
  **The parts of a definition are found again however they are put together.**

  Three kinds of blanks meet where a definition is parted.  All blanks count at its beginning and at
  the end of the name, only spaces part the name from the tail and are left out before the tail, and
  a tail of nothing but blanks counts as none.  Still the parts are in one form (`Parts.Proper`), and
  parts in that form come out as they are, with any blanks before the name, any number of spaces
  before a tail and any blanks where there is no tail (`split_of_tail`, `split_of_no_tail`).

  Main statement: `split_normalises`.
-/
import CommandLang.Proofs.Definition

namespace CommandLang.Definition

variable {d tail before after : Text} {parts : Parts}

/-- A name has no space in it and no blank at either end.  A tail comes with a name, begins with no
    space and is not blank. -/
structure Parts.Proper (parts : Parts) : Prop where
  spaceless : ' ' ∉ parts.name
  head : ∀ c ∈ parts.name.head?, isBlank c = false
  last : ∀ c ∈ parts.name.getLast?, isBlank c = false
  named : parts.name = [] → parts.tail = none
  tail : ∀ tail ∈ parts.tail, tail.head? ≠ some ' ' ∧ ∃ c ∈ tail, isBlank c = false

/-- The parts of the definition are proper, and all definitions that are put together of them have
    the same parts. -/
structure Normal (d : Text) (parts : Parts) : Prop extends parts.Proper where
  blank : parts.name = [] ↔ d.isAllBlank
  suffix : ∀ tail ∈ parts.tail, tail <:+ d
  again : ∀ tail ∈ parts.tail, ∀ before : Text, before.isAllBlank → ∀ n,
    split (before ++ (parts.name ++ (List.replicate (n + 1) ' ' ++ tail))) = parts
  alone : parts.tail = none → ∀ before after : Text, before.isAllBlank → after.isAllBlank →
    split (before ++ (parts.name ++ after)) = parts

/-! ### The parts of a definition -/

theorem split_of_blank (h : d.isAllBlank) : split d = ⟨[], none⟩ := by
  have htail : (tailPart d).isAllBlank := by
    rw [tailPart, Text.trimLeft_of_isAllBlank h]
    rfl
  rw [split_of_isAllBlank htail, namePart_eq_nil_iff.2 h]

theorem head?_namePart (d : Text) : ∀ c ∈ (namePart d).head?, isBlank c = false := by
  intro c hc
  have hprefix : namePart d <+: d.trimLeft :=
    (Text.trimRight_prefix _).trans (List.takeWhile_prefix _)
  obtain ⟨rest, hrest⟩ := hprefix
  apply Text.head?_trimLeft d c
  rw [← hrest, List.head?_append, Option.mem_def.1 hc]
  rfl

theorem proper_split (d : Text) : (split d).Proper := by
  constructor
  case spaceless =>
    intro hmem
    exact Text.not_mem_cutAt ' ' d.trimLeft ((Text.trimRight_prefix _).subset hmem)
  case head => exact head?_namePart d
  case last => exact Text.getLast?_trimRight _
  case named =>
    intro hname
    rw [split_of_blank (namePart_eq_nil_iff.1 hname)]
  case tail =>
    intro tail htail
    have hsplit : split d = ⟨namePart d, some tail⟩ := congrArg (Parts.mk (namePart d)) htail
    obtain ⟨hdrop, hblank⟩ := tail_of_split hsplit
    constructor
    · intro hspace
      obtain ⟨rest, rfl⟩ := List.head?_eq_some_iff.1 hspace
      exact Text.dropSpaces_ne_space_cons (tailPart d) rest hdrop
    · simpa [Text.isAllBlank] using hblank

/-! ### Parts put together -/

namespace Parts.Proper

/-- Any blanks may come before the name, and any number of spaces before the tail. -/
theorem split_of_tail (h : parts.Proper) (htail : parts.tail = some tail)
    (hbefore : before.isAllBlank) (n : Nat) :
    split (before ++ (parts.name ++ (List.replicate (n + 1) ' ' ++ tail))) = parts := by
  obtain ⟨hspace, c, hc, hvisible⟩ := h.tail tail htail
  have hname : parts.name ≠ [] := by
    intro hnil
    rw [h.named hnil] at htail
    cases htail
  have hblank : Text.isAllBlank (List.replicate n ' ' ++ tail) = false := by
    apply List.all_eq_false.2
    exact ⟨c, List.mem_append_right _ hc, by simp [hvisible]⟩
  rw [List.replicate_succ, List.cons_append,
    split_append hname h.spaceless h.head h.last hbefore hblank, Text.dropSpaces_replicate_append,
    Text.dropSpaces_of_head?_ne hspace, ← htail]

/-- Where there is no tail, any blanks may come after the name as well. -/
theorem split_of_no_tail (h : parts.Proper) (htail : parts.tail = none)
    (hbefore : before.isAllBlank) (hafter : after.isAllBlank) :
    split (before ++ (parts.name ++ after)) = parts := by
  obtain ⟨name, tail⟩ := parts
  subst htail
  by_cases hname : name = []
  · subst hname
    apply split_of_blank
    rw [List.nil_append, Text.isAllBlank, List.all_append, Bool.and_eq_true]
    exact ⟨hbefore, hafter⟩
  · -- a space among the blanks parts them in two
    obtain ⟨hfirst, hrest⟩ := parts_append hname h.spaceless h.head hbefore after
    have hall := List.all_eq_true.1 hafter
    have hends : ∀ c ∈ (after.cutAt ' ').1, isBlank c := by
      intro c hc
      exact hall c ((List.takeWhile_prefix _).subset hc)
    have hblank : (after.cutAt ' ').2.isAllBlank := by
      apply List.all_eq_true.2
      intro c hc
      exact hall c ((Text.cutAt_snd_suffix ' ' after).subset hc)
    rw [split_of_isAllBlank (by rw [hrest, hblank]), hfirst, Text.trimRight_append hends h.last]

end Parts.Proper

/-- **Parting a definition brings it into one form**: the parts are proper, and they are the parts
    of every definition that has them with other blanks around the name. -/
theorem split_normalises (d : Text) : Normal d (split d) := by
  have hproper := proper_split d
  refine ⟨hproper, namePart_eq_nil_iff, ?_, ?_, ?_⟩
  · intro tail htail
    exact tail_suffix (congrArg (Parts.mk (namePart d)) htail)
  · intro tail htail before hbefore n
    exact hproper.split_of_tail htail hbefore n
  · intro htail before after hbefore hafter
    exact hproper.split_of_no_tail htail hbefore hafter

/-- A tab is a blank but no space: it stays in the tail, and it is taken off the name. -/
example : split "\n Exec\t  \tx " = ⟨"Exec", some "\tx "⟩ := by decide

end CommandLang.Definition
