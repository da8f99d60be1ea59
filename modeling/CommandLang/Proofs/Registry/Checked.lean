/-
  CommandLang/Proofs/Registry/Checked.lean
  ========================================
  **What a checked table spares those who use it.**

  A lookup in a table could miss, a scan could be left without a default argument or come to a kind
  that has no values, and a definition could be refused because its command has no specs.  If the
  table and the mapping of commands to groups pass their check none of this comes about: a group in
  use is found and has specs, its specs can be read (`Orderly.readable_ofGroup`), and so a scan breaks
  off only for a number that is misread (`Scan.fault_eq_some_iff_misread`).

  Main statement: `checked_table_leaves_only_numbers`.
-/
import CommandLang.Proofs.Definition
import CommandLang.Proofs.Registry.Resolution
import CommandLang.Proofs.Scan.Fault
import CommandLang.Proofs.Spec.Run

namespace CommandLang

/-! ### Groups -/

namespace Spec

variable {specs : List Spec} {groups : Groups}

theorem Orderly.readable_ofGroup (h : Orderly specs) (group : Int) :
    Readable (ofGroup group specs) := by
  constructor
  · intro s hs
    exact h.typed s ((ofGroup_sublist group specs).subset hs)
  · rw [head?_ofGroup]
    exact h.default group

theorem exists_of_accepts (h : check specs groups = .ok ()) {command : Int}
    (hcommand : groups.accepts command) : ∃ s ∈ specs, s.group = groups.groupOf command := by
  have howned := checkGroups_eq_ok_iff.1 (check_eq_ok_iff_both.1 h).2
  obtain ⟨group, hgroup⟩ := Option.isSome_iff_exists.1 hcommand
  have hmem : group ∈ Keyed.values groups := by
    rw [Keyed.get?, List.lookup_eq_some_iff] at hgroup
    obtain ⟨before, after, rfl, -⟩ := hgroup
    simp [Keyed.values]
  have hof : groups.groupOf command = group := by
    rw [Groups.groupOf, Groups.group?, hgroup]
    rfl
  rw [hof]
  exact howned group hmem

end Spec

/-! ### Scans -/

namespace Scan

variable {specs : List Spec} {t : Text}

/-- The text is misread as a value of this kind: an integer with too many digits, or an `rgb(…)`
    with a part that is no number. -/
inductive Misread : Kind → Text → Numeral.Error → Prop where
  | int {raw : Text} {e : Numeral.Error} : Numeral.Overlong raw → Numeral.leading raw = .error e →
      Misread .int raw e
  | color {raw : Text} {e : Numeral.Error} : Color.RefusedRgb raw → Color.read raw = .error e →
      Misread .color raw e

theorem ofValue_eq_error_iff {name raw : Text} {kind : Kind} {f : Fault}
    (htyped : kind ≠ .untyped) (hbool : kind ≠ .bool) :
    Reading.ofValue name kind raw = .error f ↔ ∃ e, f = .numeral e ∧ Misread kind raw e := by
  constructor
  · intro h
    cases kind with
    | untyped => exact absurd rfl htyped
    | bool => exact absurd rfl hbool
    | string => cases h
    | int =>
      rw [Reading.ofValue] at h
      split at h
      · cases h
      · rename_i e he
        cases h
        exact ⟨e, rfl, .int (Numeral.leading_error_iff.1 ⟨e, he⟩) he⟩
    | color =>
      rw [Reading.ofValue] at h
      split at h
      · cases h
      · cases h
      · rename_i e he
        cases h
        exact ⟨e, rfl, .color (Color.read_error_iff.1 ⟨e, he⟩) he⟩
  · rintro ⟨e, rfl, hmisread⟩
    cases hmisread with
    | int _ he => simp [Reading.ofValue, he]
    | color _ he => simp [Reading.ofValue, he]

/-- **A scan with specs that can be read breaks off for a misread number and for nothing else.** -/
theorem fault_eq_some_iff_misread (hspecs : Spec.Readable specs) (hne : specs ≠ []) {f : Fault} :
    (scan specs t).fault = some f ↔
      ∃ e u s raw, f = .numeral e ∧ Reaches specs t u ∧ u ≠ [] ∧ Takes specs u s raw ∧
        Misread s.kind raw e := by
  rw [fault_eq_some_iff]
  constructor
  · rintro ⟨u, hreach, hu, hstep⟩
    obtain ⟨s, raw, htakes, hvalue⟩ := (step_error_iff hspecs.default hne).1 hstep
    obtain ⟨e, rfl, hmisread⟩ :=
      (ofValue_eq_error_iff (hspecs.typed s htakes.mem) htakes.1).1 hvalue
    exact ⟨e, u, s, raw, rfl, hreach, hu, htakes, hmisread⟩
  · rintro ⟨e, u, s, raw, rfl, hreach, hu, htakes, hmisread⟩
    refine ⟨u, hreach, hu, (step_error_iff hspecs.default hne).2 ⟨s, raw, htakes, ?_⟩⟩
    exact (ofValue_eq_error_iff (hspecs.typed s htakes.mem) htakes.1).2 ⟨e, rfl, hmisread⟩

end Scan

/-! ### Definitions -/

/-- A definition is refused for want of specs only if its command takes arguments and has none. -/
theorem exists_of_judge_eq_noSpecs {v : Vocabulary} {definition : Text}
    (h : v.judge definition = .refused .noSpecs) :
    ∃ command, v.groups.accepts command ∧ Spec.ofGroup (v.groupOf command) v.specs = [] := by
  rw [Vocabulary.judge] at h
  split at h
  · cases h
  · split at h
    · cases h
    · rename_i command _
      split at h
      · cases h
      · split at h
        · rename_i haccepts
          split at h
          · rename_i hnone
            exact ⟨command, haccepts, hnone⟩
          · cases h
        · cases h

namespace Registry

theorem judge_of_resolve_eq_noSpecs {v : Vocabulary} {r : Registry} {definition : Text}
    (h : (r.resolve v definition).result = .error (.refused .noSpecs)) :
    v.judge definition = .refused .noSpecs := by
  rw [resolve_result, Vocabulary.ruling] at h
  cases hjudge : v.judge definition with
  | refused reason =>
    rw [hjudge] at h
    cases h
    rfl
  | plain command =>
    rw [hjudge] at h
    cases h
  | scanned command trace =>
    simp only [hjudge, Verdict.ruling] at h
    cases hfault : trace.fault with
    | some f => simp [hfault] at h
    | none => cases hargs : trace.arguments <;> simp [hfault, hargs] at h

/-- **With a checked table nothing fails but the reading of a number.**  The group of a command that
    takes arguments is found and has specs, a scan with them breaks off exactly where it comes to a
    number that is misread, and no definition is refused for want of specs. -/
theorem checked_table_leaves_only_numbers {v : Vocabulary}
    (h : Spec.check v.specs v.groups = .ok ()) :
    (∀ command, v.groups.accepts command →
        ∃ index specs, Spec.firstIndex? (v.groupOf command) v.specs = some index ∧
          Spec.runAt? index v.specs = some specs ∧ specs ≠ [] ∧ v.specsFor command = specs ∧
          ∀ t f, (Scan.scan specs t).fault = some f ↔
            ∃ e u s raw, f = .numeral e ∧ Scan.Reaches specs t u ∧ u ≠ [] ∧
              Scan.Takes specs u s raw ∧ Scan.Misread s.kind raw e) ∧
      ∀ (r : Registry) (definition : Text),
        (r.resolve v definition).result ≠ .error (.refused .noSpecs) := by
  have hfound : ∀ command, v.groups.accepts command →
      ∃ index, Spec.firstIndex? (v.groupOf command) v.specs = some index := by
    intro command hcommand
    exact Spec.exists_firstIndex?_iff.2 (Spec.exists_of_accepts h hcommand)
  have hspecs : ∀ command, v.groups.accepts command →
      Spec.ofGroup (v.groupOf command) v.specs ≠ [] := by
    intro command hcommand hnone
    obtain ⟨index, hindex⟩ := hfound command hcommand
    rw [Spec.ofGroup_eq_nil_iff.1 hnone] at hindex
    cases hindex
  constructor
  · intro command hcommand
    obtain ⟨index, hindex⟩ := hfound command hcommand
    refine ⟨index, _, hindex, Spec.runAt?_firstIndex? hindex, hspecs command hcommand,
      specsFor_eq_ofGroup hcommand, ?_⟩
    intro t f
    exact Scan.fault_eq_some_iff_misread ((Spec.orderly_of_check h).readable_ofGroup _)
      (hspecs command hcommand)
  · intro r definition hrefused
    obtain ⟨command, hcommand, hnone⟩ :=
      exists_of_judge_eq_noSpecs (judge_of_resolve_eq_noSpecs hrefused)
    exact hspecs command hcommand hnone

/-- Two commands with groups of their own: the specs of the second are found behind those of the
    first, and the scan breaks off for the empty part. -/
theorem checked_table_leaves_only_numbers_of_own_groups :
    let v : Vocabulary :=
      ⟨Builtin.commands, [⟨7, "n", .int⟩, ⟨7, "all", .bool⟩, ⟨9, "tint", .color⟩],
        [(240, 7), (260, 9)]⟩
    Spec.check v.specs v.groups = .ok () ∧ v.groups.accepts 260 ∧
      Spec.runAt? 2 v.specs = some (v.specsFor 260) ∧
      (∃ e, (Scan.scan (v.specsFor 260) "rgb(1,,3)").fault = some (.numeral e)) ∧
      ((empty usualSource usualFirstId).resolve v "FindFirst rgb(1,,3)").result ≠
        .error (.refused .noSpecs) := by
  intro v
  have hcheck : Spec.check v.specs v.groups = .ok () := rfl
  have haccepts : v.groups.accepts 260 := rfl
  obtain ⟨hscan, hresolve⟩ := checked_table_leaves_only_numbers hcheck
  obtain ⟨index, specs, hindex, hrun, -, rfl, hfault⟩ := hscan 260 haccepts
  refine ⟨hcheck, haccepts, ?_, ?_, hresolve _ _⟩
  · have htwo : Spec.firstIndex? (v.groupOf 260) v.specs = some 2 := by decide
    obtain rfl : index = 2 := Option.some.inj (hindex.symm.trans htwo)
    exact hrun
  · have hbroken : (Scan.scan (v.specsFor 260) "rgb(1,,3)").fault.isSome := by decide +kernel
    obtain ⟨f, hf⟩ := Option.isSome_iff_exists.1 hbroken
    obtain ⟨e, -, -, -, rfl, -⟩ := (hfault _ f).1 hf
    exact ⟨e, hf⟩

end Registry

end CommandLang
