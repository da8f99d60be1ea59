/-
  CommandLang/Proofs/Scan/Fault.lean
  ==================================
  **Where a scan breaks off, and why.**

  A scan comes to one place of the text after another (`Reaches`).  It breaks off exactly where it
  comes to a place at which the step fails (`fault_eq_some_iff`).  With specs that all have kinds and
  a default argument that is no flag (`Spec.Readable`), a step fails only for the value it takes:

    * a number with too many digits      (`Numeral.Overlong`);
    * an `rgb(…)` whose parts are not all numbers      (`Color.RefusedRgb`).
-/
import CommandLang.Proofs.Color.Notation
import CommandLang.Proofs.Scan.Step
import CommandLang.Proofs.Spec

namespace CommandLang.Scan

variable {specs : List Spec} {t : Text}

/-! ### The course of a scan -/

/-- A scan of a text comes to this place, which begins with no space. -/
inductive Reaches (specs : List Spec) (t : Text) : Text → Prop where
  | start : Reaches specs t t.dropSpaces
  | step {u : Text} {found : Step} : Reaches specs t u → u ≠ [] → step specs u = .ok found →
      Reaches specs t found.rest.dropSpaces

theorem Reaches.dropSpaces_eq {u : Text} (h : Reaches specs t u) : u.dropSpaces = u := by
  cases h with
  | start => exact Text.dropSpaces_dropSpaces t
  | step _ _ _ => exact Text.dropSpaces_dropSpaces _

/-- What comes about on the rest of a text comes about on the text. -/
theorem Reaches.of_rest {u : Text} {found : Step} (ht : t.dropSpaces ≠ [])
    (hstep : Scan.step specs t.dropSpaces = .ok found) (h : Reaches specs found.rest u) :
    Reaches specs t u := by
  induction h with
  | start => exact .step .start ht hstep
  | step _ hu hs ih => exact .step ih hu hs

/-- A scan breaks off for the reason for which it would break off at any place it comes to. -/
theorem Reaches.fault_eq {u : Text} (h : Reaches specs t u) :
    (scan specs t).fault = (scan specs u).fault := by
  induction h with
  | start => rw [scan_dropSpaces]
  | step hreach hu hs ih =>
    have hdrop := hreach.dropSpaces_eq
    rw [ih, scan_of_step (by rwa [hdrop]) (by rwa [hdrop]), scan_dropSpaces]
    rfl

/-- **A scan breaks off exactly where a step fails.** -/
theorem fault_eq_some_iff {f : Fault} :
    (scan specs t).fault = some f ↔ ∃ u, Reaches specs t u ∧ u ≠ [] ∧ step specs u = .error f := by
  constructor
  · -- the induction is on the scan itself, whose next call is on the rest of the text
    fun_induction scan specs t with
    | case1 t ht =>
      intro h
      cases h
    | case2 t c cs ht f' hs =>
      intro h
      cases h
      exact ⟨c :: cs, ht ▸ .start, by simp, hs⟩
    | case3 t c cs ht found hs ih =>
      intro h
      obtain ⟨u, hreach, hne, hstep⟩ := ih h
      rw [← ht] at hs
      exact ⟨u, hreach.of_rest (by simp [ht]) hs, hne, hstep⟩
  · rintro ⟨u, hreach, hne, hstep⟩
    have hdrop := hreach.dropSpaces_eq
    rw [hreach.fault_eq, scan_of_fault (by rwa [hdrop]) (by rwa [hdrop])]
    rfl

/-! ### The value that a step takes -/

/-- A step at this place takes the text `raw` for the value of the spec.  Flags are left out, as a
    flag takes what is there or nothing. -/
def Takes (specs : List Spec) (u : Text) (s : Spec) (raw : Text) : Prop :=
  s.kind ≠ .bool ∧
    ((∃ start, openedBy? specs u = some (s, start) ∧ raw = (start.cutAt ' ').1) ∨
      openedBy? specs u = none ∧ specs.head? = some s ∧
        raw = if s.kind = .string then u else (u.cutAt ' ').1)

/-- The text cannot be read as a value of the kind. -/
def Unreadable : Kind → Text → Prop
  | .int, raw => Numeral.Overlong raw
  | .color, raw => Color.RefusedRgb raw
  | _, _ => False

/-- Of the kinds that are read up to the next space, a value is refused if it is unreadable. -/
theorem ofValue_error_iff {name raw : Text} {kind : Kind} (htyped : kind ≠ .untyped)
    (hbool : kind ≠ .bool) :
    (∃ f, Reading.ofValue name kind raw = .error f) ↔ Unreadable kind raw := by
  cases kind with
  | untyped => exact absurd rfl htyped
  | bool => exact absurd rfl hbool
  | string => simp [Reading.ofValue, Unreadable]
  | int =>
    rw [Unreadable, ← Numeral.leading_error_iff, Reading.ofValue]
    cases Numeral.leading raw <;> simp
  | color =>
    rw [Unreadable, ← Color.read_error_iff, Reading.ofValue]
    cases Color.read raw with
    | error e => simp
    | ok c => cases c <;> simp

/-- A fault of a value is one of a number. -/
theorem numeral_of_ofValue_error {name raw : Text} {kind : Kind} {f : Fault}
    (htyped : kind ≠ .untyped) (hbool : kind ≠ .bool)
    (h : Reading.ofValue name kind raw = .error f) : ∃ e, f = .numeral e := by
  cases kind with
  | untyped => exact absurd rfl htyped
  | bool => exact absurd rfl hbool
  | string => cases h
  | int =>
    rw [Reading.ofValue] at h
    split at h
    · cases h
    · cases h
      exact ⟨_, rfl⟩
  | color =>
    rw [Reading.ofValue] at h
    split at h
    · cases h
    · cases h
    · cases h
      exact ⟨_, rfl⟩

theorem valueStep_error_iff {name start : Text} {kind : Kind} {f : Fault} :
    valueStep name kind start = .error f ↔
      Reading.ofValue name kind (start.cutAt ' ').1 = .error f := by
  rw [valueStep_eq]
  cases Reading.ofValue name kind (start.cutAt ' ').1 <;> simp [Except.map]

theorem readAt_error_iff {s : Spec} {start : Text} {f : Fault} :
    readAt s start = .error f ↔
      s.kind ≠ .bool ∧ Reading.ofValue s.name s.kind (start.cutAt ' ').1 = .error f := by
  unfold readAt
  by_cases hbool : s.kind = .bool
  · simp [hbool]
  · rw [if_neg hbool, valueStep_error_iff]
    simp [hbool]

theorem defaulted_error_iff {s : Spec} {rest : List Spec} {u : Text} {f : Fault} :
    defaulted (s :: rest) u = .error f ↔
      Reading.ofValue s.name s.kind (if s.kind = .string then u else (u.cutAt ' ').1) =
        .error f := by
  simp only [defaulted]
  by_cases hstring : s.kind = .string
  · rw [if_pos hstring, if_pos hstring]
    cases Reading.ofValue s.name s.kind u <;> simp [Except.map]
  · rw [if_neg hstring, if_neg hstring, valueStep_error_iff]

/-- A step fails if the value that it takes is refused. -/
theorem step_error_iff (hdefault : ∀ s ∈ specs.head?, s.kind ≠ .bool) (hne : specs ≠ [])
    {u : Text} {f : Fault} :
    step specs u = .error f ↔
      ∃ s raw, Takes specs u s raw ∧ Reading.ofValue s.name s.kind raw = .error f := by
  rw [step_eq]
  cases hopen : openedBy? specs u with
  | some found =>
    obtain ⟨s, start⟩ := found
    change readAt s start = .error f ↔ _
    rw [readAt_error_iff]
    constructor
    · rintro ⟨hbool, hvalue⟩
      exact ⟨s, _, ⟨hbool, .inl ⟨start, hopen, rfl⟩⟩, hvalue⟩
    · rintro ⟨s', raw, ⟨hbool, ⟨start', hopen', rfl⟩ | ⟨hnone, -⟩⟩, hvalue⟩
      · rw [hopen] at hopen'
        cases hopen'
        exact ⟨hbool, hvalue⟩
      · rw [hopen] at hnone
        cases hnone
  | none =>
    obtain ⟨s, rest, rfl⟩ := List.exists_cons_of_ne_nil hne
    change defaulted (s :: rest) u = .error f ↔ _
    rw [defaulted_error_iff]
    constructor
    · intro hvalue
      exact ⟨s, _, ⟨hdefault s rfl, .inr ⟨hopen, rfl, rfl⟩⟩, hvalue⟩
    · rintro ⟨s', raw, ⟨-, ⟨start, hopen', -⟩ | ⟨-, hhead, rfl⟩⟩, hvalue⟩
      · rw [hopen] at hopen'
        cases hopen'
      · cases hhead
        exact hvalue

theorem mem_of_openedBy? {s : Spec} {u start : Text} (h : openedBy? specs u = some (s, start)) :
    s ∈ specs := (opened?_of_openedBy? h).1

theorem Takes.mem {u raw : Text} {s : Spec} (h : Takes specs u s raw) : s ∈ specs := by
  obtain ⟨-, ⟨start, hopen, -⟩ | ⟨-, hhead, -⟩⟩ := h
  · exact mem_of_openedBy? hopen
  · exact List.mem_of_mem_head? hhead

/-- **What makes a scan break off** is that it comes to a place where the value to take is
    unreadable. -/
theorem exists_fault_iff (hspecs : Spec.Readable specs) (hne : specs ≠ []) :
    (∃ f, (scan specs t).fault = some f) ↔
      ∃ u s raw, Reaches specs t u ∧ u ≠ [] ∧ Takes specs u s raw ∧ Unreadable s.kind raw := by
  constructor
  · rintro ⟨f, hf⟩
    obtain ⟨u, hreach, hu, hstep⟩ := fault_eq_some_iff.1 hf
    obtain ⟨s, raw, htakes, hvalue⟩ := (step_error_iff hspecs.default hne).1 hstep
    exact ⟨u, s, raw, hreach, hu, htakes,
      (ofValue_error_iff (hspecs.typed s htakes.mem) htakes.1).1 ⟨f, hvalue⟩⟩
  · rintro ⟨u, s, raw, hreach, hu, htakes, hraw⟩
    obtain ⟨f, hvalue⟩ := (ofValue_error_iff (hspecs.typed s htakes.mem) htakes.1).2 hraw
    exact ⟨f, fault_eq_some_iff.2
      ⟨u, hreach, hu, (step_error_iff hspecs.default hne).2 ⟨s, raw, htakes, hvalue⟩⟩⟩

/-- A fault of a scan is one of a number. -/
theorem numeral_of_fault (hspecs : Spec.Readable specs) (hne : specs ≠ []) {f : Fault}
    (h : (scan specs t).fault = some f) : ∃ e, f = .numeral e := by
  obtain ⟨u, -, -, hstep⟩ := fault_eq_some_iff.1 h
  obtain ⟨s, raw, htakes, hvalue⟩ := (step_error_iff hspecs.default hne).1 hstep
  exact numeral_of_ofValue_error (hspecs.typed s htakes.mem) htakes.1 hvalue

end CommandLang.Scan
