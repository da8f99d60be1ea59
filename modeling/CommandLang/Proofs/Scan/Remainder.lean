/-
  CommandLang/Proofs/Scan/Remainder.lean
  ======================================
  **A default string takes the rest of the text as it stands.**

  Where the default argument of a group is a string, named arguments are read as long as the text
  opens with one.  At the first place where it opens with none, the string takes all there is, with
  the spaces in it and after it, and with any names in it.  Nothing is left to be read, so that this
  string is the last stage of the scan and comes first among its arguments.

  Main statement: `string_takes_the_rest`.
-/
import CommandLang.Proofs.Scan.Course
import CommandLang.Proofs.Scan.Excerpt

namespace CommandLang.Scan

variable {specs : List Spec} {s : Spec} {t u : Text} {stages : List Stage}

/-- What the stage found is a named argument. -/
def Stage.IsNamed (specs : List Spec) (stage : Stage) : Prop :=
  named? specs stage.place = .ok (some stage.found)

/-- The stage at which a string takes all there is. -/
def Stage.taking (s : Spec) (u : Text) : Stage := ⟨u, ⟨.argument ⟨s.name, .string u⟩, []⟩⟩

/-- After named arguments the scan comes to a place where the text opens with no name, and there the
    string takes the rest of the text. -/
structure Taken (specs : List Spec) (s : Spec) (t : Text) (stages named : List Stage) (u : Text) :
    Prop where
  course : stages = named ++ [Stage.taking s u]
  before : ∀ stage ∈ named, stage.IsNamed specs
  /-- The place comes after leading spaces, and before the end of the text. -/
  place : u <:+ t ∧ u.dropSpaces = u ∧ u ≠ []
  unnamed : named? specs u = .ok none
  arguments : (scan specs t).arguments =
    ⟨s.name, .string u⟩ :: (named.filterMap Stage.argument?).reverse

/-! ### One stage -/

/-- A step that reads no named argument takes all of the text, if the default argument is a string. -/
theorem named?_or_taking {found : Step} (hhead : specs.head? = some s) (hkind : s.kind = .string)
    (h : step specs u = .ok found) :
    named? specs u = .ok (some found) ∨
      named? specs u = .ok none ∧ (⟨u, found⟩ : Stage) = Stage.taking s u := by
  unfold step at h
  split at h
  · rename_i hnamed
    cases h
    exact .inl hnamed
  · rename_i hnone
    obtain ⟨others, rfl⟩ := List.head?_eq_some_iff.1 hhead
    simp only [defaulted, hkind, Reading.ofValue, Except.map] at h
    cases h
    exact .inr ⟨hnone, rfl⟩
  · cases h

/-! ### All stages -/

/-- Stages that are not all named end with one at which a string takes all there is. -/
theorem Course.all_named_or_taking (hhead : specs.head? = some s) (hkind : s.kind = .string)
    (h : Course specs t stages) :
    (∀ stage ∈ stages, stage.IsNamed specs) ∨
      ∃ named u, stages = named ++ [Stage.taking s u] ∧ (∀ stage ∈ named, stage.IsNamed specs) ∧
        (u <:+ t ∧ u.dropSpaces = u ∧ u ≠ []) ∧ named? specs u = .ok none := by
  induction h with
  | done _ =>
    left
    simp
  | @step t found stages ht hs hrest ih =>
    have hsuffix := Text.dropSpaces_suffix t
    rcases named?_or_taking hhead hkind hs with hfound | ⟨hnone, htaking⟩
    · rcases ih with hall | ⟨named, u, rfl, hnamed, ⟨hu, hplace⟩, hnone⟩
      · left
        exact List.forall_mem_cons.2 ⟨hfound, hall⟩
      · right
        refine ⟨_ :: named, u, rfl, ?_, ⟨?_, hplace⟩, hnone⟩
        · exact List.forall_mem_cons.2 ⟨hfound, hnamed⟩
        · exact (hu.trans (step_within hs).2).trans hsuffix
    · -- the string leaves nothing, so that no stage comes after it
      right
      have hend : stages = [] := by
        obtain ⟨-, rfl⟩ := Stage.mk.inj htaking
        cases hrest with
        | done _ => rfl
        | step hne _ _ => exact absurd Text.dropSpaces_nil hne
      subst hend
      refine ⟨[], t.dropSpaces, ?_, ?_, ⟨hsuffix, Text.dropSpaces_dropSpaces t, ht⟩, hnone⟩
      · rw [htaking]
        rfl
      · simp

/-- **A default string takes the rest of the text as it stands**, from the first place on at which
    the text opens with no name, unless there is no such place. -/
theorem string_takes_the_rest (hhead : specs.head? = some s) (hkind : s.kind = .string)
    (hfault : (scan specs t).fault = none) :
    (∃ stages, Course specs t stages) ∧
      ∀ stages, Course specs t stages →
        (∀ stage ∈ stages, stage.IsNamed specs) ∨ ∃ named u, Taken specs s t stages named u := by
  refine ⟨exists_course_iff.2 hfault, ?_⟩
  intro stages hcourse
  rcases hcourse.all_named_or_taking hhead hkind with hall | ⟨named, u, hstages, hnamed, hu, hnone⟩
  · exact .inl hall
  · right
    refine ⟨named, u, hstages, hnamed, hu, hnone, ?_⟩
    rw [hcourse.arguments_eq, hstages, List.filterMap_append, List.reverse_append]
    rfl

/-- A name within the string, and the spaces after it, belong to the string. -/
theorem string_takes_names_and_spaces :
    let specs : List Spec := [⟨1, "spec", .string⟩, ⟨1, "filter", .string⟩]
    let t : Text := "  Filter: *.pdf  edit  filter=x  "
    let u : Text := "edit  filter=x  "
    let named : List Stage :=
      [⟨"Filter: *.pdf  edit  filter=x  ",
        ⟨.argument ⟨"filter", .string "*.pdf"⟩, " edit  filter=x  "⟩⟩]
    (scan specs t).fault = none ∧ Course specs t (named ++ [Stage.taking ⟨1, "spec", .string⟩ u]) ∧
      Taken specs ⟨1, "spec", .string⟩ t (named ++ [Stage.taking ⟨1, "spec", .string⟩ u]) named u ∧
      (scan specs t).arguments = [⟨"spec", .string u⟩, ⟨"filter", .string "*.pdf"⟩] := by
  intro specs t u named
  have hnone : named? specs u = .ok none := by rfl
  have hcourse : Course specs t (named ++ [Stage.taking ⟨1, "spec", .string⟩ u]) :=
    .step (by decide) (by rfl) (.step (by decide) (by rfl) (.done rfl))
  have hfault : (scan specs t).fault = none := exists_course_iff.1 ⟨_, hcourse⟩
  refine ⟨hfault, hcourse, ?_, hcourse.arguments_eq⟩
  obtain ⟨-, hall⟩ := string_takes_the_rest (s := ⟨1, "spec", .string⟩) rfl rfl hfault
  rcases hall _ hcourse with hnamed | ⟨named', u', htaken⟩
  · have hlast := hnamed (Stage.taking ⟨1, "spec", .string⟩ u) (by simp)
    rw [Stage.IsNamed, Stage.taking, hnone] at hlast
    cases hlast
  · obtain ⟨heq, hlast⟩ := List.append_inj' htaken.course rfl
    have hplace : u = u' := congrArg Stage.place (List.cons.inj hlast).1
    rw [← heq, ← hplace] at htaken
    exact htaken

end CommandLang.Scan
