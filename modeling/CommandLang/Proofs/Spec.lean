/-
  CommandLang/Proofs/Spec.lean
  ============================
  **The specs of a group are specs of the table.**

  They stand in the order of the table, so that what is known of the names of a table is known of
  the names of each group (`Separable.sublist`).  The first of them is the first spec of the group in
  the table (`head?_ofGroup`).
-/
import CommandLang.Builtin
import CommandLang.Proofs.Text
import Mathlib.Data.List.Basic
import Mathlib.Data.List.Nodup
import Mathlib.Data.List.TakeWhile

namespace CommandLang.Spec

/-- Every spec has a kind, and the default argument is no flag. -/
structure Readable (specs : List Spec) : Prop where
  typed : ∀ s ∈ specs, s.kind ≠ .untyped
  default : ∀ s ∈ specs.head?, s.kind ≠ .bool

/-- The names of the specs can be told apart in a text, and from what surrounds them. -/
structure Separable (specs : List Spec) : Prop where
  apart : (specs.map fun s => s.name.fold).Nodup
  free : ∀ s ∈ specs, ' ' ∉ s.name ∧ '=' ∉ s.name

/-- The names can be told apart also where a colon follows them. -/
structure Delimited (specs : List Spec) : Prop extends Separable specs where
  colon : ∀ s ∈ specs, ':' ∉ s.name

theorem Separable.sublist {specs table : List Spec} (h : Separable table)
    (hsub : specs.Sublist table) : Separable specs :=
  ⟨h.apart.sublist (hsub.map _), fun s hs => h.free s (hsub.subset hs)⟩

/-- Whether names can be told apart does not depend on their order. -/
theorem Delimited.perm {specs others : List Spec} (h : Delimited specs) (hperm : specs.Perm others) :
    Delimited others := by
  refine ⟨⟨?_, ?_⟩, ?_⟩
  · exact (hperm.map _).nodup_iff.1 h.apart
  · intro s hs
    exact h.free s (hperm.mem_iff.2 hs)
  · intro s hs
    exact h.colon s (hperm.mem_iff.2 hs)

/-- Of two specs with names that are alike there is only one. -/
theorem Separable.eq_of_fold_eq {specs : List Spec} (h : Separable specs) {s s' : Spec}
    (hs : s ∈ specs) (hs' : s' ∈ specs) (hfold : s.name.fold = s'.name.fold) : s = s' :=
  List.inj_on_of_nodup_map h.apart hs hs' hfold

/-- No word for a name has a space in it. -/
theorem Separable.space_not_mem {specs : List Spec} (h : Separable specs) {s : Spec} {word : Text}
    (hs : s ∈ specs) (hfold : word.fold = s.name.fold) : ' ' ∉ word := by
  rw [Text.mem_iff_of_fold_eq (by decide) hfold]
  exact (h.free s hs).1

theorem run_sublist (specs : List Spec) : (run specs).Sublist specs := by
  cases specs with
  | nil => exact List.nil_sublist []
  | cons s rest => exact (List.takeWhile_sublist _).cons_cons s

theorem ofGroup_cons_of_eq {s : Spec} {group : Int} (h : s.group = group) (rest : List Spec) :
    ofGroup group (s :: rest) = run (s :: rest) := by
  simp [ofGroup, firstIndex?, List.findIdx?_cons, h]

theorem ofGroup_cons_of_ne {s : Spec} {group : Int} (h : s.group ≠ group) (rest : List Spec) :
    ofGroup group (s :: rest) = ofGroup group rest := by
  have hne : (s.group == group) = false := by simpa using h
  simp only [ofGroup, firstIndex?, List.findIdx?_cons, hne]
  cases rest.findIdx? fun s => s.group == group <;> rfl

/-- The default argument of a group is the first spec of the group in the table. -/
theorem head?_ofGroup (group : Int) (specs : List Spec) :
    (ofGroup group specs).head? = specs.find? (·.group == group) := by
  induction specs with
  | nil => rfl
  | cons s rest ih =>
    by_cases h : s.group = group
    · rw [ofGroup_cons_of_eq h, List.find?_cons_of_pos (by simpa using h)]
      rfl
    · rw [ofGroup_cons_of_ne h, ih, List.find?_cons_of_neg (by simpa using h)]

theorem ofGroup_sublist (group : Int) (specs : List Spec) :
    (ofGroup group specs).Sublist specs := by
  unfold ofGroup
  split
  · rename_i index _
    exact (run_sublist (specs.drop index)).trans (List.drop_sublist index specs)
  · exact List.nil_sublist specs

theorem group_of_mem_run {s s' : Spec} {rest : List Spec} (h : s ∈ run (s' :: rest)) :
    s.group = s'.group := by
  rcases List.mem_cons.1 h with rfl | h
  · rfl
  · simpa using List.mem_takeWhile_imp h

/-- All specs of a group are in the group. -/
theorem group_of_mem_ofGroup {group : Int} {specs : List Spec} {s : Spec}
    (h : s ∈ ofGroup group specs) : s.group = group := by
  induction specs with
  | nil => cases h
  | cons s' rest ih =>
    by_cases hgroup : s'.group = group
    · rw [ofGroup_cons_of_eq hgroup] at h
      exact (group_of_mem_run h).trans hgroup
    · rw [ofGroup_cons_of_ne hgroup] at h
      exact ih h

end CommandLang.Spec

namespace CommandLang

theorem Vocabulary.specsFor_sublist (v : Vocabulary) (command : Int) :
    (v.specsFor command).Sublist v.specs := by
  unfold Vocabulary.specsFor
  split
  · exact Spec.ofGroup_sublist _ _
  · exact List.nil_sublist v.specs

/-- The specs of a command are specs of the table in the command's group. -/
theorem Vocabulary.group_of_mem_specsFor {v : Vocabulary} {command : Int} {s : Spec}
    (h : s ∈ v.specsFor command) : s.group = v.groupOf command := by
  unfold Vocabulary.specsFor at h
  split at h
  · exact Spec.group_of_mem_ofGroup h
  · cases h

namespace Builtin

/-- The built-in names of arguments can be told apart. -/
theorem separable_specs : Spec.Separable specs := ⟨by decide, by decide⟩

/-- No built-in group begins with a flag. -/
theorem kind_of_find?_group : ∀ s ∈ specs, ∀ s' ∈ specs.find? (·.group == s.group),
    s'.kind ≠ .bool := by decide

theorem readable_specsFor (command : Int) : Spec.Readable (vocabulary.specsFor command) := by
  constructor
  · intro s hs
    have htyped : ∀ s ∈ specs, s.kind ≠ .untyped := by decide
    exact htyped s ((vocabulary.specsFor_sublist command).subset hs)
  · intro s hs
    unfold Vocabulary.specsFor at hs
    split at hs
    · rw [Spec.head?_ofGroup] at hs
      have hmem := List.mem_of_find?_eq_some hs
      have hgroup : s.group = vocabulary.groupOf command := by simpa using List.find?_some hs
      refine kind_of_find?_group s hmem s ?_
      rw [hgroup]
      exact hs
    · cases hs

/-- No built-in group has both strings and colours. -/
theorem kind_ne_color_of_string {command : Int} {s s' : Spec}
    (hs : s ∈ vocabulary.specsFor command) (hs' : s' ∈ vocabulary.specsFor command)
    (hstring : s.kind = .string) : s'.kind ≠ .color := by
  have hall : ∀ s ∈ specs, ∀ s' ∈ specs, s.group = s'.group → s.kind = .string →
      s'.kind ≠ .color := by decide
  have hsub := vocabulary.specsFor_sublist command
  refine hall s (hsub.subset hs) s' (hsub.subset hs') ?_ hstring
  rw [Vocabulary.group_of_mem_specsFor hs, Vocabulary.group_of_mem_specsFor hs']

end Builtin

end CommandLang
