/-
  CommandLang/Proofs/Scan/Canonical.lean
  ======================================
  **The canonical text of arguments.**

  In canonical form arguments are written one after another with single spaces between them, each
  as `name=value`, except that a string with a space in it stands there by itself: there is no other
  way to give it.  What a scan yields is scanned again from its canonical text (`scan_canonical`).
-/
import CommandLang.Proofs.Scan.Yield

namespace CommandLang

/-- The written form of an argument, or its bare text if it is a string with a space in it. -/
def Argument.canonical (a : Argument) : Text :=
  match a.value with
  | .string t => if ' ' ∈ t then t else a.write
  | _ => a.write

/-- The canonical text of arguments, which are given in the order of the text. -/
def Argument.canonicalText (args : List Argument) : Text := Text.join " " (args.map canonical)

theorem Argument.canonicalText_singleton (a : Argument) : canonicalText [a] = a.canonical := by
  simp [canonicalText, Text.join]

theorem Argument.canonicalText_cons_cons (a b : Argument) (args : List Argument) :
    canonicalText (a :: b :: args) = a.canonical ++ ' ' :: canonicalText (b :: args) := rfl

namespace Scan

variable {specs : List Spec} {a : Argument} {args : List Argument} {t u rest : Text}

theorem canonical_of_writable (h : a.Writable specs) : a.canonical = a.write := by
  have hvalue := h.2
  unfold Argument.canonical
  split
  · rename_i text htext
    rw [htext] at hvalue
    exact if_neg hvalue
  · rfl

theorem canonical_of_takesRest (h : a.TakesRest specs t) : a.canonical = t := by
  simp only [Argument.canonical, h.value, h.space_mem, if_true]

/-- A text that the default argument takes as it stands is one step, and nothing is left. -/
theorem step_of_takesRest (h : a.TakesRest specs t) : step specs t = .ok ⟨.argument a, []⟩ := by
  obtain ⟨s, hhead, hkind, rfl, -, -, hopen⟩ := h
  obtain ⟨others, rfl⟩ : ∃ others, specs = s :: others := by
    cases specs with
    | nil => cases hhead
    | cons first others =>
      cases hhead
      exact ⟨others, rfl⟩
  rw [step_eq, hopen]
  change defaulted (s :: others) t = _
  rw [defaulted, if_pos hkind, hkind]
  rfl

theorem scan_of_takesRest (h : a.TakesRest specs t) : scan specs t = ⟨[.argument a], none⟩ := by
  have hdrop : t.dropSpaces = t := by
    obtain ⟨s, -, -, -, -, hdrop, -⟩ := h
    exact hdrop
  have hne : t.dropSpaces ≠ [] := by
    rw [hdrop]
    exact List.ne_nil_of_mem h.space_mem
  have hstep : step specs t.dropSpaces = .ok ⟨.argument a, []⟩ := by
    rw [hdrop]
    exact step_of_takesRest h
  rw [scan_of_step hne hstep, scan_of_blank Text.dropSpaces_nil]
  rfl

/-- **What a scan yields is scanned again** from its canonical text, without a fault and without a
    rejected colour. -/
theorem scan_canonical (hspecs : Spec.Separable specs) (h : Legible specs args) :
    scan specs (Argument.canonicalText args) = ⟨args.map Reading.argument, none⟩ := by
  induction h with
  | nil => exact scan_of_blank rfl
  | rest ha =>
    rw [Argument.canonicalText_singleton, canonical_of_takesRest ha, scan_of_takesRest ha]
    rfl
  | @cons a args ha _ ih =>
    cases args with
    | nil =>
      have hscan : scan specs (a.write ++ []) = (scan specs []).cons (.argument a) :=
        scan_write_append hspecs ha (.inl rfl)
      rw [List.append_nil] at hscan
      rw [Argument.canonicalText_singleton, canonical_of_writable ha, hscan]
      exact congrArg (Trace.cons (.argument a)) ih
    | cons b args =>
      rw [Argument.canonicalText_cons_cons, canonical_of_writable ha,
        scan_write_append hspecs ha (.inr ⟨_, rfl⟩)]
      exact congrArg (Trace.cons (.argument a)) ih

/-! ### Canonical texts are not blank -/

theorem equals_mem_canonicalText (ha : a.Writable specs) (args : List Argument) :
    '=' ∈ Argument.canonicalText (a :: args) := by
  have hwrite : '=' ∈ a.canonical := by
    rw [canonical_of_writable ha]
    simp [Argument.write]
  cases args with
  | nil =>
    rw [Argument.canonicalText_singleton]
    exact hwrite
  | cons b args =>
    rw [Argument.canonicalText_cons_cons]
    exact List.mem_append_left _ hwrite

/-- A string that is all that a scan reads is all of the text but the spaces before it. -/
theorem dropSpaces_of_readings (ha : a.TakesRest specs u)
    (h : (scan specs t).readings = [.argument a]) : t.dropSpaces = u := by
  by_cases hblank : t.dropSpaces = []
  · rw [scan_of_blank hblank] at h
    cases h
  · cases hs : step specs t.dropSpaces with
    | error f =>
      rw [scan_of_fault hblank hs] at h
      cases h
    | ok found =>
      rw [scan_of_step hblank hs] at h
      obtain ⟨reading, rest⟩ := found
      obtain ⟨rfl, -⟩ := List.cons.inj h
      rcases writable_or_takesRest_of_step (Text.dropSpaces_dropSpaces t) hs with hw | ⟨hrest, -⟩
      · exact absurd hw ha.not_writable
      · have hvalue := hrest.value
        rw [ha.value] at hvalue
        exact (Value.string.inj hvalue).symm

/-- The canonical text of what was scanned from a text is blank only if that text was.  It would be
    otherwise after a colour that was rejected, so strings and colours must not be mixed. -/
theorem isAllBlank_canonicalText
    (hspecs : ∀ s ∈ specs, s.kind = .string → ∀ s' ∈ specs, s'.kind ≠ .color)
    (hne : (scan specs t).arguments ≠ []) (ht : t.isAllBlank = false) :
    (Argument.canonicalText (scan specs t).arguments.reverse).isAllBlank = false := by
  have hlegible := legible_scan specs t
  cases hargs : (scan specs t).arguments.reverse with
  | nil => exact absurd (List.reverse_eq_nil_iff.1 hargs) hne
  | cons a args =>
    rw [hargs] at hlegible
    cases hlegible with
    | cons ha _ =>
      rw [Text.isAllBlank, List.all_eq_false]
      exact ⟨'=', equals_mem_canonicalText ha args, by decide⟩
    | @rest _ u ha =>
      have hreadings : (scan specs t).readings = [.argument a] := by
        obtain ⟨s, hhead, hkind, -⟩ := ha
        have hnone := hspecs s (List.mem_of_mem_head? hhead) hkind
        rw [readings_of_no_color hnone, hargs]
        rfl
      rw [Argument.canonicalText_singleton, canonical_of_takesRest ha,
        ← dropSpaces_of_readings ha hreadings, Text.isAllBlank_dropSpaces, ht]

end Scan

end CommandLang
