/-
  CommandLang/Proofs/Scan/Yield.lean
  ==================================
  **What a scan yields.**

  Every argument that a scan yields is declared by a spec of the group.  Its value can be written
  and read back (`Argument.Writable`), with one exception: a default argument of kind string takes
  all that is left of the text, with the spaces in it (`Argument.TakesRest`).  Nothing comes after
  such an argument, so the arguments of a scan are writable up to the last one (`legible_scan`).
-/
import CommandLang.Proofs.Except
import CommandLang.Proofs.Scan.Fault
import CommandLang.Proofs.Scan.RoundTrip

namespace CommandLang

/-- The default argument takes the text, with a space in it, as it stands, because the text opens
    with none of the specs. -/
def Argument.TakesRest (specs : List Spec) (t : Text) (a : Argument) : Prop :=
  ∃ s, specs.head? = some s ∧ s.kind = .string ∧ a = ⟨s.name, .string t⟩ ∧ ' ' ∈ t ∧
    t.dropSpaces = t ∧ Scan.openedBy? specs t = none

namespace Argument

variable {specs : List Spec} {a : Argument} {t : Text}

theorem TakesRest.declared (h : a.TakesRest specs t) :
    ∃ s ∈ specs, s.name = a.name ∧ s.kind = a.kind := by
  obtain ⟨s, hhead, hkind, rfl, -⟩ := h
  exact ⟨s, List.mem_of_mem_head? hhead, rfl, hkind⟩

theorem TakesRest.value (h : a.TakesRest specs t) : a.value = .string t := by
  obtain ⟨s, -, -, rfl, -⟩ := h
  rfl

theorem TakesRest.space_mem (h : a.TakesRest specs t) : ' ' ∈ t := by
  obtain ⟨s, -, -, -, hspace, -⟩ := h
  exact hspace

/-- A string with a space in it is not written so that it could be read back. -/
theorem TakesRest.not_writable (h : a.TakesRest specs t) : ¬ a.Writable specs := by
  rintro ⟨-, hvalue⟩
  rw [h.value] at hvalue
  exact hvalue h.space_mem

end Argument

namespace Scan

variable {specs : List Spec} {s : Spec} {a : Argument} {t u rest : Text}

/-! ### One step -/

theorem valueStep_eq_ok_iff {name start : Text} {kind : Kind} {found : Step} :
    valueStep name kind start = .ok found ↔
      ∃ r, Reading.ofValue name kind (start.cutAt ' ').1 = .ok r ∧
        found = ⟨r, (start.cutAt ' ').2⟩ := by
  rw [valueStep_eq, map_eq_ok_iff]
  constructor
  · rintro ⟨r, hr, rfl⟩
    exact ⟨r, hr, rfl⟩
  · rintro ⟨r, hr, rfl⟩
    exact ⟨r, hr, rfl⟩

/-- An argument has the name and the kind that it was read for, and a value without a space in it
    can be written and read back. -/
theorem readable_of_ofValue {name raw : Text} {kind : Kind} (hraw : ' ' ∉ raw)
    (h : Reading.ofValue name kind raw = .ok (.argument a)) :
    a.name = name ∧ a.kind = kind ∧ a.value.Readable := by
  cases kind with
  | untyped => cases h
  | bool => cases h
  | string =>
    cases h
    exact ⟨rfl, rfl, hraw⟩
  | int =>
    rw [Reading.ofValue] at h
    split at h
    · rename_i n hn
      cases h
      exact ⟨rfl, rfl, Numeral.length_writeNat_of_leading hn⟩
    · cases h
  | color =>
    rw [Reading.ofValue] at h
    split at h
    · rename_i c hc
      cases h
      exact ⟨rfl, rfl, Color.inRange_of_read hc⟩
    · cases h
    · cases h

theorem writable_of_flagStep {start : Text} (hs : s ∈ specs) (hkind : s.kind = .bool)
    (h : (flagStep s.name start).reading = .argument a) : a.Writable specs := by
  unfold flagStep at h
  split at h
  split at h
  · cases h
    exact ⟨⟨s, hs, rfl, hkind⟩, trivial⟩
  · cases h
    exact ⟨⟨s, hs, rfl, hkind⟩, trivial⟩

theorem writable_of_valueStep {start : Text} (hs : s ∈ specs)
    (h : valueStep s.name s.kind start = .ok ⟨.argument a, rest⟩) : a.Writable specs := by
  obtain ⟨r, hr, hfound⟩ := valueStep_eq_ok_iff.1 h
  cases hfound
  obtain ⟨hname, hkind, hvalue⟩ := readable_of_ofValue (Text.not_mem_cutAt ' ' start) hr
  exact ⟨⟨s, hs, hname.symm, hkind.symm⟩, hvalue⟩

/-- All that a step can be: a flag or a value given by name, or the default argument, which is all
    of the text if it is a string and else a value. -/
theorem step_cases {found : Step} (h : step specs t = .ok found) :
    (∃ s start, openedBy? specs t = some (s, start) ∧ s.kind = .bool ∧
        found = flagStep s.name start) ∨
      (∃ s start, openedBy? specs t = some (s, start) ∧
        valueStep s.name s.kind start = .ok found) ∨
      (∃ s, openedBy? specs t = none ∧ specs.head? = some s ∧ s.kind = .string ∧
        found = ⟨.argument ⟨s.name, .string t⟩, []⟩) ∨
      ∃ s, openedBy? specs t = none ∧ specs.head? = some s ∧
        valueStep s.name s.kind t = .ok found := by
  rw [step_eq] at h
  cases hopen : openedBy? specs t with
  | some opened =>
    obtain ⟨s, start⟩ := opened
    simp only [hopen, readAt] at h
    split at h
    · rename_i hkind
      exact .inl ⟨s, start, rfl, hkind, (Except.ok.inj h).symm⟩
    · exact .inr (.inl ⟨s, start, rfl, h⟩)
  | none =>
    simp only [hopen] at h
    cases specs with
    | nil => cases h
    | cons s others =>
      simp only [defaulted] at h
      split at h
      · rename_i hkind
        rw [hkind] at h
        exact .inr (.inr (.inl ⟨s, rfl, rfl, hkind, (Except.ok.inj h).symm⟩))
      · exact .inr (.inr (.inr ⟨s, rfl, rfl, h⟩))

/-- An argument that a step yields is writable, or it is a string that took all that was left. -/
theorem writable_or_takesRest_of_step (ht : t.dropSpaces = t)
    (h : step specs t = .ok ⟨.argument a, rest⟩) :
    a.Writable specs ∨ a.TakesRest specs t ∧ rest = [] := by
  rcases step_cases h with ⟨s, start, hopen, hkind, hflag⟩ | ⟨s, start, hopen, hvalue⟩ |
    ⟨s, hopen, hhead, hkind, hrest⟩ | ⟨s, hopen, hhead, hvalue⟩
  · exact .inl (writable_of_flagStep (mem_of_openedBy? hopen) hkind (by rw [← hflag]))
  · exact .inl (writable_of_valueStep (mem_of_openedBy? hopen) hvalue)
  · cases hrest
    by_cases hspace : ' ' ∈ t
    · exact .inr ⟨⟨s, hhead, hkind, rfl, hspace, ht, hopen⟩, rfl⟩
    · exact .inl ⟨⟨s, List.mem_of_mem_head? hhead, rfl, hkind⟩, hspace⟩
  · exact .inl (writable_of_valueStep (List.mem_of_mem_head? hhead) hvalue)

/-- Only a text that is given for a colour is rejected, and only if it is none. -/
theorem rejected_of_valueStep {name start name' raw : Text} {kind : Kind}
    (h : valueStep name kind start = .ok ⟨.rejected name' raw, rest⟩) :
    kind = .color ∧ name' = name ∧ Color.read raw = .ok none := by
  obtain ⟨r, hr, hfound⟩ := valueStep_eq_ok_iff.1 h
  cases hfound
  cases kind with
  | color =>
    rw [Reading.ofValue] at hr
    split at hr
    · cases hr
    · rename_i hnone
      cases hr
      exact ⟨rfl, rfl, hnone⟩
    · cases hr
  | int =>
    rw [Reading.ofValue] at hr
    split at hr <;> cases hr
  | _ => cases hr

theorem exists_color_of_step {name raw : Text}
    (h : step specs t = .ok ⟨.rejected name raw, rest⟩) :
    ∃ s ∈ specs, s.kind = .color ∧ s.name = name ∧ Color.read raw = .ok none := by
  rcases step_cases h with ⟨s, start, -, -, hflag⟩ | ⟨s, start, hopen, hvalue⟩ |
    ⟨s, -, -, -, hrest⟩ | ⟨s, -, hhead, hvalue⟩
  · unfold flagStep at hflag
    split at hflag
    split at hflag <;> cases hflag
  · obtain ⟨hkind, hname, hraw⟩ := rejected_of_valueStep hvalue
    exact ⟨s, mem_of_openedBy? hopen, hkind, hname.symm, hraw⟩
  · cases hrest
  · obtain ⟨hkind, hname, hraw⟩ := rejected_of_valueStep hvalue
    exact ⟨s, List.mem_of_mem_head? hhead, hkind, hname.symm, hraw⟩

/-! ### A whole scan -/

/-- Arguments in the order of a text: each can be written and read back, but the last one may have
    taken all that was left. -/
inductive Legible (specs : List Spec) : List Argument → Prop where
  | nil : Legible specs []
  | rest {a : Argument} {t : Text} : a.TakesRest specs t → Legible specs [a]
  | cons {a : Argument} {args : List Argument} :
      a.Writable specs → Legible specs args → Legible specs (a :: args)

theorem arguments_reverse (trace : Trace) :
    trace.arguments.reverse = trace.readings.filterMap Reading.argument? :=
  List.reverse_reverse _

/-- **The arguments of a scan** are writable, up to one that took all that was left. -/
theorem legible_scan (specs : List Spec) (t : Text) :
    Legible specs (scan specs t).arguments.reverse := by
  rw [arguments_reverse]
  fun_induction scan specs t with
  | case1 t ht => exact .nil
  | case2 t c cs ht f hs => exact .nil
  | case3 t c cs ht found hs ih =>
    have hdrop : Text.dropSpaces (c :: cs) = c :: cs := by
      rw [← ht]
      exact Text.dropSpaces_dropSpaces t
    obtain ⟨reading, rest⟩ := found
    cases reading with
    | rejected name raw => exact ih
    | argument a =>
      rcases writable_or_takesRest_of_step hdrop hs with ha | ⟨ha, rfl⟩
      · exact .cons ha ih
      · -- nothing is left, so that the scan of the rest yields nothing
        rw [scan_of_blank Text.dropSpaces_nil]
        exact .rest ha

theorem Legible.writable_or_takesRest {args : List Argument} (h : Legible specs args) :
    ∀ a ∈ args, a.Writable specs ∨ ∃ t, a.TakesRest specs t := by
  induction h with
  | nil => simp
  | rest ha =>
    intro b hb
    rw [List.mem_singleton.1 hb]
    exact .inr ⟨_, ha⟩
  | cons ha _ ih =>
    intro b hb
    rcases List.mem_cons.1 hb with rfl | hb
    · exact .inl ha
    · exact ih b hb

/-- Without a colour among the specs every reading is an argument. -/
theorem readings_of_no_color (hspecs : ∀ s ∈ specs, s.kind ≠ .color) (t : Text) :
    (scan specs t).readings = (scan specs t).arguments.reverse.map Reading.argument := by
  rw [arguments_reverse]
  fun_induction scan specs t with
  | case1 t ht => rfl
  | case2 t c cs ht f hs => rfl
  | case3 t c cs ht found hs ih =>
    obtain ⟨reading, rest⟩ := found
    cases reading with
    | rejected name raw =>
      obtain ⟨s, hs', hkind, -⟩ := exists_color_of_step hs
      exact absurd hkind (hspecs s hs')
    | argument a => exact congrArg (List.cons (.argument a)) ih

end Scan

end CommandLang
