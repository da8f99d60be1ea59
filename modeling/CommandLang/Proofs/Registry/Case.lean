/-
  CommandLang/Proofs/Registry/Case.lean
  =====================================
  **Definitions that differ in case.**

  The case of ASCII letters makes no difference to what is made of a definition, except in the texts
  that are kept as they were given: the definition itself and the strings among its arguments.

  Main statement: of two definitions that differ in case alone, a registry refuses both for the same
  reason, or gives both the same id and makes instances of the same command with arguments that are
  alike (`resolve_of_small_eq`).
-/
import CommandLang.Proofs.Catalog
import CommandLang.Proofs.Registry.Explained
import CommandLang.Proofs.Registry.RoundTrip
import CommandLang.Proofs.Scan.Case

namespace CommandLang

/-! ### Values that are alike -/

/-- The values are equal, the case of ASCII letters in strings aside. -/
def Value.Alike : Value → Value → Prop
  | .string t, .string u => t.small = u.small
  | v, w => v = w

/-- The arguments have the same name and values that are alike. -/
def Argument.Alike (a b : Argument) : Prop := a.name = b.name ∧ a.value.Alike b.value

theorem Value.alike_of_small_eq {v w : Value} (h : v.small = w.small) : v.Alike w := by
  cases v with
  | string t =>
    cases w with
    | string u => exact Value.string.inj h
    | _ => cases h
  | _ =>
    cases w with
    | string u => cases h
    | _ => exact h

theorem Argument.alike_of_map_small_eq {args args' : List Argument}
    (h : args.map small = args'.map small) : List.Forall₂ Alike args args' := by
  have hsmall : List.Forall₂ (fun a b => a = b) (args.map small) (args'.map small) := by
    rw [h]
    exact List.forall₂_refl _
  rw [List.forall₂_map_left_iff, List.forall₂_map_right_iff] at hsmall
  refine hsmall.imp fun a b hab => ?_
  obtain ⟨hname, hvalue⟩ := Argument.mk.inj hab
  exact ⟨hname, Value.alike_of_small_eq hvalue⟩

/-! ### What is made of a definition -/

theorem Definition.split_small (d : Text) :
    split d.small = ⟨(split d).name.small, (split d).tail.map Text.small⟩ := by
  simp only [split, Text.trimLeft_small, Text.cutAt_small (by decide : ' '.toNat < 65),
    Text.trimRight_small, Text.dropSpaces_small, Text.isAllBlank_small]
  split <;> rfl

theorem Catalog.idByName?_small (commands : Catalog) (t : Text) :
    commands.idByName? t.small = commands.idByName? t := by
  simp only [idByName?, denotedBy?, Text.denotes_small]

def Verdict.small : Verdict → Verdict
  | .scanned command trace => .scanned command trace.small
  | verdict => verdict

theorem Vocabulary.judge_small (v : Vocabulary) (d : Text) :
    v.judge d.small = (v.judge d).small := by
  simp only [judge, Definition.split_small, Text.isEmpty_small, Catalog.idByName?_small]
  split
  · rfl
  · split
    · rfl
    · cases (Definition.split d).tail with
      | none => rfl
      | some tail =>
        simp only [Option.map_some, Scan.scan_small]
        split
        · split <;> rfl
        · rfl

def Ruling.small : Ruling → Ruling
  | .made command args => .made command (args.map Argument.small)
  | ruling => ruling

theorem Verdict.ruling_small (verdict : Verdict) : verdict.small.ruling = verdict.ruling.small := by
  cases verdict with
  | refused reason => rfl
  | plain command => rfl
  | scanned command trace =>
    have hfault : trace.small.fault = trace.fault := rfl
    simp only [Verdict.small, Verdict.ruling, hfault, Scan.arguments_small]
    cases trace.fault with
    | some f => rfl
    | none => cases trace.arguments <;> rfl

theorem Vocabulary.ruling_small (v : Vocabulary) (d : Text) :
    v.ruling d.small = (v.ruling d).small := by
  rw [ruling, judge_small, Verdict.ruling_small, ruling]

/-- Definitions that differ in case alone come to the same, but for the case of strings. -/
theorem Vocabulary.ruling_small_eq (v : Vocabulary) {d d' : Text} (h : d.small = d'.small) :
    (v.ruling d).small = (v.ruling d').small := by
  rw [← v.ruling_small, ← v.ruling_small, h]

namespace Registry

variable {v : Vocabulary} {d d' : Text}

theorem ruling_made_of_small_eq {command : Int} {args : List Argument}
    (h : d.small = d'.small) (hruling : v.ruling d = .made command args) :
    ∃ args', v.ruling d' = .made command args' ∧ List.Forall₂ Argument.Alike args args' := by
  have hsmall := v.ruling_small_eq h
  rw [hruling] at hsmall
  cases hruling' : v.ruling d' with
  | failed f =>
    rw [hruling'] at hsmall
    cases hsmall
  | plain command' =>
    rw [hruling'] at hsmall
    cases hsmall
  | made command' args' =>
    rw [hruling'] at hsmall
    obtain ⟨rfl, hargs⟩ := Ruling.made.inj hsmall
    exact ⟨args', rfl, Argument.alike_of_map_small_eq hargs⟩

/-- What is reported of a definition, and whether it takes an id, is settled by its ruling with all
    letters small. -/
theorem resolve_result_small (v : Vocabulary) (r : Registry) (d : Text) :
    (r.resolve v d).result =
      match (v.ruling d).small with
      | .failed f => .error f
      | .plain command => .ok command
      | .made _ _ => .ok r.nextId := by
  rw [resolve_result]
  cases v.ruling d <;> rfl

theorem nextId_resolve_small (v : Vocabulary) (r : Registry) (d : Text) :
    (r.resolve v d).registry.nextId =
      match (v.ruling d).small with
      | .made _ _ => r.nextId + 1
      | _ => r.nextId := by
  rw [resolve_registry]
  cases v.ruling d <;> rfl

/-- **Definitions do not depend on the case of ASCII letters.**  Two that differ in nothing else
    fail for the same reason or are resolved to the same id, and the same id comes next.  If the
    first makes an instance, so does the second, under the same id and of the same command; one by
    one their arguments are alike, and each has the definition that it was made from. -/
theorem resolve_of_small_eq (v : Vocabulary) (r : Registry) (h : d.small = d'.small) :
    (r.resolve v d).result = (r.resolve v d').result ∧
      (r.resolve v d).registry.nextId = (r.resolve v d').registry.nextId ∧
      ∀ x ∈ (r.resolve v d).registry.instances, x ∉ r.instances →
        ∃ x', (r.resolve v d').registry.find? x.id = some x' ∧ x'.id = x.id ∧
          x'.command = x.command ∧ List.Forall₂ Argument.Alike x.arguments x'.arguments ∧
            x.definition = d ∧ x'.definition = d' := by
  have hsmall := v.ruling_small_eq h
  refine ⟨?_, ?_, ?_⟩
  · rw [resolve_result_small, resolve_result_small, hsmall]
  · rw [nextId_resolve_small, nextId_resolve_small, hsmall]
  · intro x hx hnew
    obtain ⟨command, args, hruling, rfl⟩ := exists_made_of_new hnew hx
    obtain ⟨args', hruling', hargs⟩ := ruling_made_of_small_eq h hruling
    refine ⟨⟨r.nextId, command, d', args'⟩, ?_, rfl, rfl, hargs, rfl, rfl⟩
    rw [resolve_registry, hruling']
    exact find?_store r command d' args'

/-- The strings of an instance are as its definition has them. -/
theorem resolve_of_small_eq_strings :
    let r := empty usualSource 303
    let d : Text := "EXEC Filter=x Spec=Ab"
    let d' : Text := "exec fILTER=X spec=aB"
    let x : Instance := ⟨303, 302, d, [⟨"spec", .string "Ab"⟩, ⟨"filter", .string "x"⟩]⟩
    d.small = d'.small ∧ x ∈ (r.resolve Builtin.vocabulary d).registry.instances ∧
      x ∉ r.instances ∧
        ∃ x', (r.resolve Builtin.vocabulary d').registry.find? 303 = some x' ∧
          x'.command = 302 ∧ List.Forall₂ Argument.Alike x.arguments x'.arguments := by
  intro r d d' x
  have hsmall : d.small = d'.small := by decide +kernel
  have hnew : x ∉ r.instances := by decide
  have hx : x ∈ (r.resolve Builtin.vocabulary d).registry.instances := by decide +kernel
  obtain ⟨-, -, hmade⟩ := resolve_of_small_eq Builtin.vocabulary r hsmall
  obtain ⟨x', hfind, -, hcommand, hargs, -⟩ := hmade x hx hnew
  exact ⟨hsmall, hx, hnew, x', hfind, hcommand, hargs⟩

end Registry

end CommandLang
