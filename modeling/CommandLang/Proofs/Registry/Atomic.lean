/-
  CommandLang/Proofs/Registry/Atomic.lean
  =======================================
  **What fails or stands for a command changes nothing.**

  An operation is idle if it only reads, fails, or answers the id of a command.  An idle operation
  leaves the registry as it was (`perform_registry_of_isIdle`), so the others go on from the same
  registry whether or not it is performed, and answer the same.
-/
import CommandLang.Proofs.Registry.Reachable

namespace CommandLang

def Vocabulary.hasCommand (v : Vocabulary) (id : Int) : Bool := v.commands.any (·.id == id)

namespace Registry

def Operation.isReadOnly : Operation → Bool
  | .find _ | .contains _ | .list | .lastId => true
  | .resolve _ | .parse _ | .tryParse _ | .clear => false

/-- Whether a step only read, failed, or answered the id of a command. -/
def isIdle (v : Vocabulary) (step : Operation × Answer) : Bool :=
  step.1.isReadOnly || step.2.isFailure || step.2.id?.any v.hasCommand

/-- The steps of a run that are not idle. -/
def effective (v : Vocabulary) (r : Registry) (ops : List Operation) :
    List (Operation × Answer) :=
  (ops.zip (r.performAll v ops).result).filter fun step => !isIdle v step

variable {v : Vocabulary} {r : Registry}

theorem not_isIdle_of_made? (hr : Reachable v r) {op : Operation} {e : Record}
    (h : v.made? op = some e) : isIdle v (op, (r.perform v op).result) = false := by
  obtain ⟨hd, hruling⟩ := made?_eq_some_iff.1 h
  have hread : op.isReadOnly = false := by
    cases op with
    | resolve d => rfl
    | parse d => rfl
    | tryParse d => rfl
    | clear => rfl
    | _ => cases hd
  have hfail : (r.perform v op).result.isFailure = false := by
    rw [isFailure_perform hd, resolve_result, hruling]
    rfl
  have hid : (r.perform v op).result.id?.any v.hasCommand = false := by
    rw [(perform_of_made? h).2, Option.any_some, Vocabulary.hasCommand, List.any_eq_false]
    intro c hc heq
    exact nextId_ne_id_of_reachable hr hc (eq_of_beq heq).symm
  simp [isIdle, hread, hfail, hid]

/-- An idle operation leaves the registry as it was. -/
theorem perform_registry_of_isIdle (hr : Reachable v r) {op : Operation}
    (h : isIdle v (op, (r.perform v op).result)) : (r.perform v op).registry = r := by
  cases he : v.made? op with
  | some e => rw [not_isIdle_of_made? hr he] at h; cases h
  | none =>
    by_cases hc : op = .clear
    · subst hc
      cases h
    · exact perform_registry_of_idle he hc

theorem effective_cons (op : Operation) (ops : List Operation) :
    effective v r (op :: ops) =
      if isIdle v (op, (r.perform v op).result) then effective v (r.perform v op).registry ops
      else (op, (r.perform v op).result) :: effective v (r.perform v op).registry ops := by
  simp only [effective, performAll, List.zip_cons_cons, List.filter_cons]
  cases isIdle v (op, (r.perform v op).result) <;> rfl

/-- The steps of a run that are not idle, performed by themselves, answer what they answered in the
    run and lead to the same registry. -/
theorem performAll_effective (hr : Reachable v r) (ops : List Operation) :
    (r.performAll v ((effective v r ops).map Prod.fst)).result =
        (effective v r ops).map Prod.snd ∧
      (r.performAll v ((effective v r ops).map Prod.fst)).registry =
        (r.performAll v ops).registry := by
  induction ops generalizing r with
  | nil => exact ⟨rfl, rfl⟩
  | cons op ops ih =>
    obtain ⟨hresult, hregistry⟩ := ih (hr.perform op)
    rw [effective_cons]
    by_cases hidle : isIdle v (op, (r.perform v op).result)
    · -- leaving out the step: the rest of the run starts from the same registry
      have hsame := perform_registry_of_isIdle hr hidle
      rw [if_pos hidle]
      rw [hsame] at hresult hregistry ⊢
      refine ⟨hresult, ?_⟩
      rw [hregistry]
      change _ = ((r.perform v op).registry.performAll v ops).registry
      rw [hsame]
    · rw [if_neg hidle]
      constructor
      · change (r.perform v op).result :: _ = (r.perform v op).result :: _
        rw [hresult]
      · exact hregistry

/-- A definition that is not resolved, or resolved to a command, changes nothing. -/
theorem resolve_registry_of_command (hr : Reachable v r) {d : Text}
    (h : (∃ f, (r.resolve v d).result = .error f) ∨
      ∃ c ∈ v.commands, (r.resolve v d).result = .ok c.id) :
    (r.resolve v d).registry = r := by
  rw [resolve_registry]
  rw [resolve_result] at h
  split
  · rename_i command arguments hruling
    simp only [hruling] at h
    rcases h with ⟨f, hf⟩ | ⟨c, hc, hid⟩
    · cases hf
    · exact absurd (Except.ok.inj hid) (nextId_ne_id_of_reachable hr hc)
  · rfl

/-- **Failures are atomic.**  A definition that fails or stands for a command leaves the registry as
    it was; the three ways to resolve a definition leave the same registry and report the same; and
    a run without its idle steps gives the same answers and the same registry. -/
theorem failures_are_atomic (hr : Reachable v r) :
    (∀ d, ((∃ f, (r.resolve v d).result = .error f) ∨
        ∃ c ∈ v.commands, (r.resolve v d).result = .ok c.id) → (r.resolve v d).registry = r) ∧
      (∀ d, (r.parse v d).registry = (r.resolve v d).registry ∧
        (r.tryParse v d).registry = (r.resolve v d).registry) ∧
      (∀ d id, (r.resolve v d).result = .ok id →
        (r.parse v d).result = .ok (some id) ∧
          (r.tryParse v d).result = .ok (.accepted d id [])) ∧
      (∀ d reason, (r.resolve v d).result = .error (.refused reason) →
        (r.parse v d).result = .ok none ∧
          (r.tryParse v d).result = .ok (.refused d reason.code (reason.message d))) ∧
      (∀ d f, (r.resolve v d).result = .error (.fault f) →
        (r.parse v d).result = .error f ∧ (r.tryParse v d).result = .error f) ∧
      ∀ ops,
        (r.performAll v ((effective v r ops).map Prod.fst)).result =
            (effective v r ops).map Prod.snd ∧
          (r.performAll v ((effective v r ops).map Prod.fst)).registry =
            (r.performAll v ops).registry := by
  refine ⟨fun d => resolve_registry_of_command hr,
    fun d => ⟨parse_registry v r d, tryParse_registry v r d⟩, ?_, ?_, ?_, performAll_effective hr⟩
  · intro d id h
    rw [parse_result, tryParse_result, h]
    exact ⟨rfl, rfl⟩
  · intro d reason h
    rw [parse_result, tryParse_result, h]
    exact ⟨rfl, rfl⟩
  · intro d f h
    rw [parse_result, tryParse_result, h]
    exact ⟨rfl, rfl⟩

/-- Of a run with a failure, a command, an escaping fault and a look-up, the instance is left. -/
theorem failures_are_atomic_in_mixed_run :
    Reachable Builtin.vocabulary (empty usualSource 303) ∧
      ((empty usualSource 303).performAll Builtin.vocabulary
          [.parse "Bogus 1", .resolve "Close", .tryParse "CreateAnnotText rgb(,,)", .find 303,
            .resolve "ScrollUp 5"]).registry =
        ((empty usualSource 303).performAll Builtin.vocabulary [.resolve "ScrollUp 5"]).registry := by
  have hnew : create Builtin.vocabulary.commands 303 usualSource = .ok (empty usualSource 303) :=
    if_neg (by decide +kernel)
  have hr : Reachable Builtin.vocabulary (empty usualSource 303) := .create hnew
  have hkept :
      (effective Builtin.vocabulary (empty usualSource 303)
          [.parse "Bogus 1", .resolve "Close", .tryParse "CreateAnnotText rgb(,,)", .find 303,
            .resolve "ScrollUp 5"]).map Prod.fst =
        [.resolve "ScrollUp 5"] := by decide +kernel
  refine ⟨hr, Eq.trans ((failures_are_atomic hr).2.2.2.2.2 _).2.symm ?_⟩
  rw [hkept]

end Registry

end CommandLang
