/-
  CommandLang/Proofs/Scan/Case.lean
  =================================
  **Scans of texts that differ in case.**

  A scan does not depend on the case of ASCII letters but for the texts that it takes as they stand,
  the strings and the colours that it rejects.  So making the letters of a text small makes those of
  its trace small, and changes nothing else (`scan_small`).  Each step keeps to that (`step_small`).
-/
import CommandLang.Proofs.Color.Case
import CommandLang.Proofs.Scan.Step

namespace CommandLang

/-- The value with the ASCII capitals of a string made small. -/
def Value.small : Value → Value
  | .string t => .string t.small
  | v => v

def Argument.small (a : Argument) : Argument := ⟨a.name, a.value.small⟩

namespace Scan

def Reading.small : Reading → Reading
  | .argument a => .argument a.small
  | .rejected name raw => .rejected name raw.small

def Step.small (found : Step) : Step := ⟨found.reading.small, found.rest.small⟩

def Trace.small (trace : Trace) : Trace := ⟨trace.readings.map Reading.small, trace.fault⟩

variable {specs : List Spec} {s : Spec} {t : Text}

/-! ### Values -/

theorem flag_read?_small (word : Text) : Flag.read? word.small = Flag.read? word := by
  rw [Flag.read?, Text.fold_small, Flag.read?]

theorem ofValue_small (name : Text) (kind : Kind) (raw : Text) :
    Reading.ofValue name kind raw.small = (Reading.ofValue name kind raw).map Reading.small := by
  cases kind with
  | untyped => rfl
  | bool => rfl
  | string => rfl
  | int =>
    rw [Reading.ofValue, Numeral.leading_small, Reading.ofValue]
    cases Numeral.leading raw <;> rfl
  | color =>
    rw [Reading.ofValue, Color.read_small, Reading.ofValue]
    cases Color.read raw with
    | error e => rfl
    | ok c => cases c <;> rfl

theorem flagStep_small (name start : Text) :
    flagStep name start.small = (flagStep name start).small := by
  simp only [flagStep, Text.cutAt_small (by decide : ' '.toNat < 65), flag_read?_small]
  cases Flag.read? (start.cutAt ' ').1 <;> rfl

theorem valueStep_small (name : Text) (kind : Kind) (start : Text) :
    valueStep name kind start.small = (valueStep name kind start).map Step.small := by
  rw [valueStep_eq, valueStep_eq, Text.cutAt_small (by decide), ofValue_small]
  cases Reading.ofValue name kind (start.cutAt ' ').1 <;> rfl

/-! ### One step -/

theorem valueStart?_small (t : Text) :
    valueStart? t.small = (valueStart? t).map Text.small := by
  cases t with
  | nil => rfl
  | cons c u =>
    by_cases hspace : c = ' '
    · subst hspace
      exact congrArg some (Text.dropSpaces_small u)
    · by_cases hequals : c = '='
      · subst hequals
        rfl
      · by_cases hcolon : ∃ w, c :: u = ':' :: ' ' :: w
        · obtain ⟨w, hw⟩ := hcolon
          rw [hw]
          exact congrArg some (Text.dropSpaces_small w)
        · -- none of the signs stands there, nor does any in the text made small
          have hspace' : c.toLower ≠ ' ' := by rwa [ne_eq, toLower_eq_iff_of_lt (by decide)]
          have hequals' : c.toLower ≠ '=' := by rwa [ne_eq, toLower_eq_iff_of_lt (by decide)]
          have hcolon' : ∀ w, c.toLower :: Text.small u ≠ ':' :: ' ' :: w := by
            intro w heq
            obtain ⟨hc, hu⟩ := List.cons.inj heq
            obtain ⟨x, w', rfl, hx, -⟩ := List.map_eq_cons_iff.1 hu
            rw [toLower_eq_iff_of_lt (by decide)] at hc hx
            subst hc hx
            exact hcolon ⟨w', rfl⟩
          rw [valueStart?_cons_of_ne hspace hequals fun w hw => hcolon ⟨w, hw⟩, Text.small_cons,
            valueStart?_cons_of_ne hspace' hequals' hcolon']
          rfl

theorem opened?_small (s : Spec) (t : Text) :
    opened? s t.small = (opened? s t).map Text.small := by
  rw [opened?, Text.opensWith_small, Text.drop_small, opened?]
  split
  · cases t.drop s.name.length with
    | nil =>
      by_cases hkind : s.kind = .bool
      · simp [hkind]
      · simp [hkind]
    | cons c after => exact valueStart?_small (c :: after)
  · rfl

theorem openedBy?_small (specs : List Spec) (t : Text) :
    openedBy? specs t.small =
      (openedBy? specs t).map fun found => (found.1, found.2.small) := by
  induction specs with
  | nil => rfl
  | cons s specs ih =>
    simp only [openedBy?, List.findSome?_cons, opened?_small] at ih ⊢
    cases opened? s t with
    | none => exact ih
    | some start => rfl

theorem readAt_small (s : Spec) (start : Text) :
    readAt s start.small = (readAt s start).map Step.small := by
  unfold readAt
  split
  · rw [flagStep_small]
    rfl
  · exact valueStep_small s.name s.kind start

theorem defaulted_small (specs : List Spec) (t : Text) :
    defaulted specs t.small = (defaulted specs t).map Step.small := by
  cases specs with
  | nil => rfl
  | cons s others =>
    simp only [defaulted]
    split
    · rw [ofValue_small]
      cases Reading.ofValue s.name s.kind t <;> rfl
    · exact valueStep_small s.name s.kind t

/-- A step does not depend on case. -/
theorem step_small (specs : List Spec) (t : Text) :
    step specs t.small = (step specs t).map Step.small := by
  rw [step_eq, step_eq, openedBy?_small]
  cases openedBy? specs t with
  | none => exact defaulted_small specs t
  | some found => exact readAt_small found.1 found.2

/-! ### A whole scan -/

/-- **A scan does not depend on case.** -/
theorem scan_small (specs : List Spec) (t : Text) :
    scan specs t.small = (scan specs t).small := by
  fun_induction scan specs t with
  | case1 t ht =>
    rw [scan_of_blank]
    · rfl
    · rw [Text.dropSpaces_small, ht]
      rfl
  | case2 t c cs ht f hs =>
    have hdrop : t.small.dropSpaces = Text.small (c :: cs) := by rw [Text.dropSpaces_small, ht]
    have hstep : step specs t.small.dropSpaces = .error f := by
      rw [hdrop, step_small, hs]
      rfl
    rw [scan_of_fault (by simp [hdrop]) hstep]
    rfl
  | case3 t c cs ht found hs ih =>
    have hdrop : t.small.dropSpaces = Text.small (c :: cs) := by rw [Text.dropSpaces_small, ht]
    have hstep : step specs t.small.dropSpaces = .ok found.small := by
      rw [hdrop, step_small, hs]
      rfl
    rw [scan_of_step (by simp [hdrop]) hstep]
    change (scan specs found.rest.small).cons found.reading.small = _
    rw [ih]
    rfl

theorem arguments_small (trace : Trace) :
    trace.small.arguments = trace.arguments.map Argument.small := by
  have hread : ∀ reading : Reading,
      reading.small.argument? = reading.argument?.map Argument.small := by
    intro reading
    cases reading <;> rfl
  have hcomp : Reading.argument? ∘ Reading.small =
      fun reading => reading.argument?.map Argument.small := funext hread
  rw [Trace.arguments, Trace.arguments, Trace.small, List.filterMap_map, hcomp, List.map_reverse,
    List.map_filterMap]

end Scan

end CommandLang
