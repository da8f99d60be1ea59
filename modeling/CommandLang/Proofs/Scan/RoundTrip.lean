/-
  CommandLang/Proofs/Scan/RoundTrip.lean
  ======================================
  **Arguments are scanned as they were written.**

  Written arguments with spaces between them are scanned as the same arguments, in the order of the
  text, provided that names can be told apart and values do not reach beyond their place:

    * no name of the group has a space or `=` in it, and no two are alike (`Spec.Separable`);
    * a string has no space in it, a number is not too long, a colour is made of bytes
      (`Value.Readable`).

  One written argument is one step (`step_write`), whatever is left after it.  A scan then follows
  the pieces of the text (`scan_write`).
-/
import CommandLang.Proofs.Color
import CommandLang.Proofs.Scan.Step
import CommandLang.Proofs.Spec

namespace CommandLang

/-! ### What can be written and read back -/

/-- A value whose written form is one piece of a text and is read as the value. -/
def Value.Readable : Value → Prop
  | .string t => ' ' ∉ t
  | .int n => (Numeral.writeNat n.natAbs).length ≤ Numeral.maxDigits
  | .bool _ => True
  | .color c => c.InRange

instance : (v : Value) → Decidable v.Readable
  | .string t => inferInstanceAs (Decidable (' ' ∉ t))
  | .int n => inferInstanceAs (Decidable ((Numeral.writeNat n.natAbs).length ≤ Numeral.maxDigits))
  | .bool _ => .isTrue trivial
  | .color c => inferInstanceAs (Decidable c.InRange)

/-- An argument that one of the specs declares, with a readable value. -/
def Argument.Writable (specs : List Spec) (a : Argument) : Prop :=
  (∃ s ∈ specs, s.name = a.name ∧ s.kind = a.kind) ∧ a.value.Readable

instance (specs : List Spec) (a : Argument) : Decidable (a.Writable specs) :=
  inferInstanceAs (Decidable (_ ∧ _))

theorem isBlank_space : isBlank ' ' = true := by decide

theorem Value.space_not_mem_write {v : Value} (h : v.Readable) : ' ' ∉ v.write := by
  intro hmem
  cases v with
  | string t => exact h hmem
  | int n =>
    have hblank := Numeral.isBlank_of_mem_write (n := n) hmem
    rw [isBlank_space] at hblank
    cases hblank
  | bool flag => cases flag <;> revert hmem <;> decide
  | color c =>
    have hblank := Color.isBlank_of_mem_hex h hmem
    rw [isBlank_space] at hblank
    cases hblank

namespace Scan

variable {specs : List Spec} {a : Argument} {tail : Text}

/-! ### The value of a written argument -/

theorem ofValue_write {v : Value} (h : v.Readable) (hkind : v.kind ≠ .bool) (name : Text) :
    Reading.ofValue name v.kind v.write = .ok (.argument ⟨name, v⟩) := by
  cases v with
  | string t => rfl
  | int n => simp only [Value.kind, Value.write, Reading.ofValue, Numeral.leading_write h]
  | bool flag => exact absurd rfl hkind
  | color c => simp only [Value.kind, Value.write, Reading.ofValue, Color.read_hex h]

theorem read?_write_bool (flag : Bool) : Flag.read? (Value.bool flag).write = some flag := by
  cases flag <;> decide

/-- Where its value begins, a written argument is read up to the space after it. -/
theorem readAt_write {s : Spec} {v : Value} (hkind : s.kind = v.kind) (hvalue : v.Readable)
    (htail : tail = [] ∨ ∃ u, tail = ' ' :: u) :
    readAt s (v.write ++ tail) = .ok ⟨.argument ⟨s.name, v⟩, tail.drop 1⟩ := by
  have hcut : (v.write ++ tail).cutAt ' ' = (v.write, tail.drop 1) :=
    Text.cutAt_space_append (Value.space_not_mem_write hvalue) htail
  rw [readAt, hkind]
  by_cases hbool : v.kind = .bool
  · cases v with
    | bool flag =>
      rw [if_pos hbool, flagStep, hcut]
      simp only [read?_write_bool]
    | _ => cases hbool
  · have hread := ofValue_write hvalue hbool s.name
    rw [if_neg hbool, valueStep_eq, hcut, hread]
    rfl

/-! ### One written argument -/

/-- Of separable specs, a written argument opens with its own and with no other. -/
theorem openedBy?_write (hspecs : Spec.Separable specs) {s : Spec} (hs : s ∈ specs)
    (hname : s.name = a.name) (tail : Text) :
    openedBy? specs (a.write ++ tail) = some (s, a.value.write ++ tail) := by
  have hwrite : a.write ++ tail = s.name ++ '=' :: (a.value.write ++ tail) := by
    simp [Argument.write, hname]
  rw [hwrite]
  refine openedBy?_of_only hs (opened?_of_fold_eq rfl rfl rfl) ?_
  intro s' hs' hne
  have hfold : s.name.fold ≠ s'.name.fold := by
    intro heq
    exact hne (hspecs.eq_of_fold_eq hs' hs heq.symm)
  exact opened?_of_fold_ne (by decide) (hspecs.free s' hs').2 (hspecs.free s hs).1
    (hspecs.free s hs).2 (.inl (by decide)) hfold

/-- A written argument is one step of a scan. -/
theorem step_write (hspecs : Spec.Separable specs) (ha : a.Writable specs)
    (htail : tail = [] ∨ ∃ u, tail = ' ' :: u) :
    step specs (a.write ++ tail) = .ok ⟨.argument a, tail.drop 1⟩ := by
  obtain ⟨⟨s, hs, hname, hkind⟩, hvalue⟩ := ha
  rw [step_eq, openedBy?_write hspecs hs hname]
  change readAt s (a.value.write ++ tail) = _
  rw [readAt_write hkind hvalue htail, hname]

theorem dropSpaces_write (hspecs : Spec.Separable specs) (ha : a.Writable specs) (tail : Text) :
    (a.write ++ tail).dropSpaces = a.write ++ tail := by
  obtain ⟨⟨s, hs, hname, -⟩, -⟩ := ha
  have hspace : ' ' ∉ a.name := hname ▸ (hspecs.free s hs).1
  have hword : ' ' ∉ a.name ++ ['='] := by simp [hspace]
  have hwrite : a.write ++ tail = a.name ++ ['='] ++ (a.value.write ++ tail) := by
    simp [Argument.write]
  rw [hwrite, Text.dropSpaces_append_of_not_mem (by simp) hword]

theorem write_ne_nil (a : Argument) : a.write ≠ [] := by simp [Argument.write]

/-! ### Many written arguments -/

/-- Scanning the first of the written arguments leaves the others. -/
theorem scan_write_append (hspecs : Spec.Separable specs) (ha : a.Writable specs)
    (htail : tail = [] ∨ ∃ u, tail = ' ' :: u) :
    scan specs (a.write ++ tail) = (scan specs (tail.drop 1)).cons (.argument a) := by
  have hdrop := dropSpaces_write hspecs ha tail
  have hne : (a.write ++ tail).dropSpaces ≠ [] := by simp [hdrop, write_ne_nil]
  have hstep : step specs (a.write ++ tail).dropSpaces = .ok ⟨.argument a, tail.drop 1⟩ := by
    rw [hdrop]
    exact step_write hspecs ha htail
  rw [scan_of_step hne hstep]

/-- Written arguments are scanned as the same arguments, in the order of the text. -/
theorem scan_write (hspecs : Spec.Separable specs) {args : List Argument} {t : Text}
    (hargs : ∀ a ∈ args, a.Writable specs) (ht : Text.Spaced (args.map Argument.write) t) :
    scan specs t = ⟨args.map Reading.argument, none⟩ := by
  -- the induction is on how the text is made of pieces, each of which is a written argument
  generalize hpieces : args.map Argument.write = pieces at ht
  induction ht generalizing args with
  | nil =>
    rw [List.map_eq_nil_iff.1 hpieces]
    exact scan_of_blank rfl
  | last piece =>
    obtain ⟨a, rest, rfl, rfl, hrest⟩ := List.map_eq_cons_iff.1 hpieces
    have hscan : scan specs (a.write ++ []) = (scan specs []).cons (.argument a) :=
      scan_write_append hspecs (hargs a (by simp)) (.inl rfl)
    rw [List.append_nil] at hscan
    rw [hscan, List.map_eq_nil_iff.1 hrest, scan_of_blank Text.dropSpaces_nil]
    rfl
  | piece piece _ ih =>
    obtain ⟨a, rest, rfl, rfl, hrest⟩ := List.map_eq_cons_iff.1 hpieces
    rw [scan_write_append hspecs (hargs a (by simp)) (.inr ⟨_, rfl⟩), List.drop_succ_cons,
      List.drop_zero, ih (fun x hx => hargs x (by simp [hx])) hrest]
    rfl
  | space _ ih =>
    rw [scan_space, ih hargs hpieces]

theorem arguments_map_argument (args : List Argument) :
    Trace.arguments ⟨args.map Reading.argument, none⟩ = args.reverse := by
  rw [Trace.arguments, List.filterMap_map]
  exact congrArg List.reverse (List.filterMap_some)

theorem log_map_argument (args : List Argument) :
    Trace.log ⟨args.map Reading.argument, none⟩ = [] := by
  simp [Trace.log, List.flatMap_map, Reading.log]

end Scan

end CommandLang
