/-
  CommandLang/Proofs/Scan/Excerpt.lean
  ====================================
  **The strings of a scan are excerpts of its text.**

  A step reads its value from what follows a name, and leaves what follows the value; both are ends
  of the text (`step_within`).  So no string among the arguments has anything in it that the text
  has not (`infix_of_mem_arguments`).
-/
import CommandLang.Proofs.Scan.Yield

namespace CommandLang.Scan

variable {specs : List Spec} {s : Spec} {t u start : Text}

/-- If the reading is a string, it is part of the text. -/
def Reading.Within (reading : Reading) (t : Text) : Prop :=
  ∀ name u, reading = .argument ⟨name, .string u⟩ → u <:+: t

theorem Reading.Within.mono {reading : Reading} (h : reading.Within t) (ht : t <:+: u) :
    reading.Within u := by
  intro name w hw
  exact (h name w hw).trans ht

/-! ### Values -/

theorem within_of_ofValue {name raw : Text} {kind : Kind} {reading : Reading}
    (h : Reading.ofValue name kind raw = .ok reading) : reading.Within raw := by
  rintro name' u rfl
  cases kind with
  | string =>
    cases h
    exact List.infix_refl raw
  | int =>
    rw [Reading.ofValue] at h
    split at h <;> cases h
  | color =>
    rw [Reading.ofValue] at h
    split at h <;> cases h
  | _ => cases h

theorem within_of_valueStep {name : Text} {kind : Kind} {found : Step}
    (h : valueStep name kind start = .ok found) :
    found.reading.Within start ∧ found.rest <:+ start := by
  obtain ⟨reading, hreading, rfl⟩ := valueStep_eq_ok_iff.1 h
  refine ⟨(within_of_ofValue hreading).mono ?_, Text.cutAt_snd_suffix ' ' start⟩
  exact (List.takeWhile_prefix _).isInfix

theorem within_flagStep (name start : Text) :
    (flagStep name start).reading.Within start ∧ (flagStep name start).rest <:+ start := by
  unfold flagStep
  split
  rename_i word rest hcut
  split
  · refine ⟨by rintro name u ⟨⟩, ?_⟩
    have hsuffix := Text.cutAt_snd_suffix ' ' start
    rwa [hcut] at hsuffix
  · exact ⟨by rintro name u ⟨⟩, List.suffix_refl start⟩

/-! ### Steps -/

theorem valueStart?_suffix (h : valueStart? t = some start) : start <:+ t := by
  unfold valueStart? at h
  split at h
  · cases h
    exact (Text.dropSpaces_suffix _).trans (List.suffix_cons _ _)
  · cases h
    exact ((Text.dropSpaces_suffix _).trans (List.suffix_cons _ _)).trans (List.suffix_cons _ _)
  · cases h
    exact List.suffix_cons _ _
  · cases h

theorem opened?_suffix (h : opened? s t = some start) : start <:+ t := by
  unfold opened? at h
  split at h
  · split at h
    · split at h
      · cases h
        exact List.nil_suffix
      · cases h
    · exact (valueStart?_suffix h).trans (List.drop_suffix _ t)
  · cases h

theorem openedBy?_suffix (h : openedBy? specs t = some (s, start)) : start <:+ t :=
  opened?_suffix (opened?_of_openedBy? h).2

/-- A step reads from the text and leaves an end of it. -/
theorem step_within {found : Step} (h : step specs t = .ok found) :
    found.reading.Within t ∧ found.rest <:+ t := by
  rcases step_cases h with ⟨s, start, hopen, -, rfl⟩ | ⟨s, start, hopen, hvalue⟩ |
    ⟨s, -, -, -, rfl⟩ | ⟨s, -, -, hvalue⟩
  · have hsuffix := openedBy?_suffix hopen
    obtain ⟨hreading, hrest⟩ := within_flagStep s.name start
    exact ⟨hreading.mono hsuffix.isInfix, hrest.trans hsuffix⟩
  · have hsuffix := openedBy?_suffix hopen
    obtain ⟨hreading, hrest⟩ := within_of_valueStep hvalue
    exact ⟨hreading.mono hsuffix.isInfix, hrest.trans hsuffix⟩
  · refine ⟨?_, List.nil_suffix⟩
    rintro name u ⟨⟩
    exact List.infix_refl t
  · exact within_of_valueStep hvalue

/-! ### A whole scan -/

theorem scan_within (specs : List Spec) (t : Text) :
    ∀ reading ∈ (scan specs t).readings, reading.Within t := by
  fun_induction scan specs t with
  | case1 t ht =>
    intro reading hmem
    cases hmem
  | case2 t c cs ht f hs =>
    intro reading hmem
    cases hmem
  | case3 t c cs ht found hs ih =>
    have hdrop : c :: cs <:+ t := by
      rw [← ht]
      exact Text.dropSpaces_suffix t
    obtain ⟨hreading, hrest⟩ := step_within hs
    intro reading hmem
    rcases List.mem_cons.1 hmem with rfl | hmem
    · exact hreading.mono hdrop.isInfix
    · exact (ih reading hmem).mono (hrest.trans hdrop).isInfix

/-- **A string among the arguments is part of the text.** -/
theorem infix_of_mem_arguments {name : Text}
    (h : ⟨name, .string u⟩ ∈ (scan specs t).arguments) : u <:+: t := by
  obtain ⟨reading, hmem, hargument⟩ := List.mem_filterMap.1 (List.mem_reverse.1 h)
  refine scan_within specs t reading hmem name u ?_
  cases reading with
  | argument a => exact congrArg Reading.argument (Option.some.inj hargument)
  | rejected name' raw => cases hargument

end CommandLang.Scan
