/-
  CommandLang/Proofs/Registry/Fault.lean
  ======================================
  **What no way of resolving a definition is spared.**

  `parse` and `tryParse` turn a refusal into a result, but a fault of the scan is a failure of theirs
  too.  With the built-in vocabulary it is met exactly where the scan comes to a number of more than
  `Numeral.maxDigits` digits or to an `rgb(…)` with a part that is no number
  (`parse_fails_iff_breaksOff`).
-/
import CommandLang.Proofs.Catalog
import CommandLang.Proofs.Definition
import CommandLang.Proofs.Registry.Resolution
import CommandLang.Proofs.Scan.Fault

namespace CommandLang

/-- The arguments of the definition are scanned, and the scan comes to a value that cannot be
    read. -/
def Vocabulary.BreaksOff (v : Vocabulary) (definition : Text) : Prop :=
  ∃ name tail command, Definition.split definition = ⟨name, some tail⟩ ∧ name ≠ [] ∧
    v.commands.idByName? name = some command ∧ ∃ u s raw,
      Scan.Reaches (v.specsFor command) tail u ∧ u ≠ [] ∧
        Scan.Takes (v.specsFor command) u s raw ∧ Scan.Unreadable s.kind raw

namespace Registry

variable {v : Vocabulary} {r : Registry} {definition : Text}

theorem ruling_eq_fault_iff {f : Scan.Fault} :
    v.ruling definition = .failed (.fault f) ↔
      ∃ command trace, v.judge definition = .scanned command trace ∧ trace.fault = some f := by
  unfold Vocabulary.ruling
  cases hj : v.judge definition with
  | refused reason => simp [Verdict.ruling]
  | plain command => simp [Verdict.ruling]
  | scanned command trace =>
    constructor
    · intro h
      refine ⟨command, trace, rfl, ?_⟩
      simp only [Verdict.ruling] at h
      split at h
      · rename_i hf
        cases h
        exact hf
      · cases h
      · cases h
    · rintro ⟨_, _, heq, hf⟩
      cases heq
      simp only [Verdict.ruling, hf]

/-- A ruling for the command itself names a command of the vocabulary. -/
theorem exists_of_ruling_eq_plain {command : Int} (h : v.ruling definition = .plain command) :
    ∃ c ∈ v.commands, c.id = command := by
  unfold Vocabulary.ruling at h
  cases hj : v.judge definition with
  | refused reason => simp [hj, Verdict.ruling] at h
  | plain command' =>
    rw [hj] at h
    cases h
    exact Catalog.exists_of_idByName? (idByName?_of_judge_eq_plain hj)
  | scanned command' trace =>
    simp only [hj, Verdict.ruling] at h
    split at h <;> cases h

theorem parse_error_iff {f : Scan.Fault} :
    (r.parse v definition).result = .error f ↔ v.ruling definition = .failed (.fault f) := by
  rw [parse_result, resolve_result]
  rcases v.ruling definition with (reason | f') | command | ⟨command, args⟩ <;> simp [parsed]

theorem tryParse_error_iff {f : Scan.Fault} :
    (r.tryParse v definition).result = .error f ↔ v.ruling definition = .failed (.fault f) := by
  rw [tryParse_result, resolve_result]
  rcases v.ruling definition with (reason | f') | command | ⟨command, args⟩ <;> simp [tried]

/-- A fault is met where the scan of a definition breaks off. -/
theorem exists_fault_iff_breaksOff (hspecs : ∀ command, Spec.Readable (v.specsFor command)) :
    (∃ f, v.ruling definition = .failed (.fault f)) ↔ v.BreaksOff definition := by
  constructor
  · rintro ⟨f, hf⟩
    obtain ⟨command, trace, hj, hfault⟩ := ruling_eq_fault_iff.1 hf
    obtain ⟨name, tail, hsplit, hname, hid, hne, rfl⟩ := judge_eq_scanned_iff.1 hj
    exact ⟨name, tail, command, hsplit, hname, hid,
      (Scan.exists_fault_iff (hspecs command) hne).1 ⟨f, hfault⟩⟩
  · rintro ⟨name, tail, command, hsplit, hname, hid, u, s, raw, hreach, hu, htakes, hraw⟩
    have hne : v.specsFor command ≠ [] := List.ne_nil_of_mem htakes.mem
    obtain ⟨f, hf⟩ := (Scan.exists_fault_iff (hspecs command) hne).2
      ⟨u, s, raw, hreach, hu, htakes, hraw⟩
    exact ⟨f, ruling_eq_fault_iff.2
      ⟨command, _, judge_eq_scanned_iff.2 ⟨name, tail, hsplit, hname, hid, hne, rfl⟩, hf⟩⟩

/-- **The tolerant ways to resolve a definition fail exactly where its scan breaks off**, and always
    for a number.  Else they give no id, the next id or the id of a command. -/
theorem parse_fails_iff_breaksOff (r : Registry) (definition : Text) :
    ((∃ f, (r.parse Builtin.vocabulary definition).result = .error f) ↔
        Builtin.vocabulary.BreaksOff definition) ∧
      ((∃ f, (r.tryParse Builtin.vocabulary definition).result = .error f) ↔
        Builtin.vocabulary.BreaksOff definition) ∧
      ((r.parse Builtin.vocabulary definition).result = .ok none ∨
        (r.parse Builtin.vocabulary definition).result = .ok (some r.nextId) ∨
        (∃ c ∈ Builtin.commands,
          (r.parse Builtin.vocabulary definition).result = .ok (some c.id)) ∨
        ∃ e, (r.parse Builtin.vocabulary definition).result = .error (.numeral e)) := by
  refine ⟨?_, ?_, ?_⟩
  · simp only [parse_error_iff]
    exact exists_fault_iff_breaksOff Builtin.readable_specsFor
  · simp only [tryParse_error_iff]
    exact exists_fault_iff_breaksOff Builtin.readable_specsFor
  · rw [parse_result, resolve_result]
    cases hruling : Builtin.vocabulary.ruling definition with
    | plain command =>
      obtain ⟨c, hc, rfl⟩ := exists_of_ruling_eq_plain hruling
      exact .inr (.inr (.inl ⟨c, hc, rfl⟩))
    | made command args => exact .inr (.inl rfl)
    | failed failure =>
      cases failure with
      | refused reason => exact .inl rfl
      | fault f =>
        obtain ⟨command, trace, hj, hfault⟩ := ruling_eq_fault_iff.1 hruling
        obtain ⟨name, tail, -, -, -, hne, rfl⟩ := judge_eq_scanned_iff.1 hj
        obtain ⟨e, rfl⟩ := Scan.numeral_of_fault (Builtin.readable_specsFor command) hne hfault
        exact .inr (.inr (.inr ⟨e, rfl⟩))

/-- Three empty parts between the parentheses are three parts that are no numbers. -/
theorem parse_fails_on_empty_parts :
    ∃ f, ((empty usualSource usualFirstId).parse Builtin.vocabulary
      "CreateAnnotText rgb(,,)").result = .error f := by
  have hfails : ((empty usualSource usualFirstId).parse Builtin.vocabulary
      "CreateAnnotText rgb(,,)").result.toBool = false := by decide +kernel
  cases hresult : ((empty usualSource usualFirstId).parse Builtin.vocabulary
      "CreateAnnotText rgb(,,)").result with
  | error f => exact ⟨f, rfl⟩
  | ok id? =>
    rw [hresult] at hfails
    cases hfails

end Registry

end CommandLang
